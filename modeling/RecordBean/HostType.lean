import RecordBean.Name

/-! # Host types

The types that a catalog describes: each with its kind, modifiers and components, and with a
marker if a bean is wanted for it.
-/

namespace RecordBean

/-- Kind of a host type. Only records get beans. -/
inductive Kind where
  | record
  | «class»
  | enum
  | interface
deriving DecidableEq, Repr

namespace Kind

def label : Kind → String
  | .record => "record"
  | .class => "class"
  | .enum => "enum"
  | .interface => "interface"

/-- All kinds, in the order in which messages list them. -/
def all : List Kind := [.record, .class, .enum, .interface]

def ofLabel? (label : String) : Option Kind := all.find? (·.label == label)

theorem ofLabel?_label (k : Kind) : ofLabel? k.label = some k := by
  cases k <;> decide

end Kind

/-- The request for a bean, and what the bean gets on top of its members. -/
structure Marker where
  /-- What stands behind an `@` above the class. -/
  annotations : List String
  interfaces : List String
deriving DecidableEq, Repr

/-- A marker that asks for nothing more than the bean. -/
def Marker.plain : Marker := ⟨[], []⟩

structure Component where
  name : String
  type : String
deriving DecidableEq, Repr

structure HostType where
  name : String
  kind : Kind
  modifiers : List String
  /-- The package of a bare name. The package of a qualified name has to be its qualifier, so
  types inside other types are not supported. -/
  package : Option String
  /-- Present when a bean is wanted. -/
  marker : Option Marker
  components : List Component
deriving DecidableEq, Repr

namespace HostType

/-- Whether a bean is wanted. -/
def isMarked (h : HostType) : Bool := h.marker.isSome

/-- Whether a component of this type is stored as a bean. -/
def hasBean (h : HostType) : Bool := h.kind == .record && h.isMarked

end HostType

end RecordBean
