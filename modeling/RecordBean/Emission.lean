import RecordBean.Event
import RecordBean.FileTree
import RecordBean.Name
import RecordBean.Text.Quoted

/-! # Emission

Where finished sources go: into a store in memory, or into files below a root directory.
-/

namespace RecordBean

inductive EmitError where
  | io (path : String) (failure : IoFailure)
  | rejected (reason : String)
deriving DecidableEq, Repr

def EmitError.message : EmitError → String
  | .io path failure => "I/O error writing " ++ path ++ ": " ++ failure.message
  | .rejected reason => "output rejected: " ++ reason

/-- A finished source with the place where it belongs. -/
structure Delivery where
  /-- Absent for the unnamed package. -/
  package : Option String
  className : String
  source : String
deriving DecidableEq, Repr

def Delivery.qualifiedName (d : Delivery) : String := Name.qualify d.package d.className

/-- A destination with a state. A refused delivery can leave traces in the state. -/
structure Sink (σ : Type) where
  deliver : Delivery → σ → Except EmitError (List Event) × σ

/-! ## A store in memory -/

/-- Sources by qualified class name, in the order of the names. -/
structure Store where
  sources : Std.TreeMap String String

namespace Store

def empty : Store := ⟨∅⟩

def get? (s : Store) (name : String) : Option String := s.sources[name]?

/-- Keep a source, in place of any that was kept under the name before. -/
def put (s : Store) (name source : String) : Store := ⟨s.sources.insert name source⟩

/-- The names under which sources are kept, by code point. -/
def keys (s : Store) : List String := s.sources.keys

def toList (s : Store) : List (String × String) := s.sources.toList

def size (s : Store) : Nat := s.sources.size

def isEmpty (s : Store) : Bool := s.sources.isEmpty

def add (s : Store) (d : Delivery) : Store := s.put d.qualifiedName d.source

/-- A store in which some classes are read-only, by their simple names. -/
def sink (readOnly : List String) : Sink Store where
  deliver d s :=
    if d.className ∈ readOnly then (.error (.rejected (d.className ++ " is read-only")), s)
    else (.ok [], s.add d)

theorem get?_put (s : Store) (name source key : String) :
    (s.put name source).get? key = if name = key then some source else s.get? key := by
  simp [get?, put, Std.TreeMap.getElem?_insert]

end Store

/-! ## Files below a root directory -/

namespace FileTree

/-- The file of every class lies in the directory of its package; `write` puts a text into the file
of a path. -/
def sinkBy (write : FileTree → String → String → FileTree × Option IoFailure) (root : String) :
    Sink FileTree where
  deliver d t :=
    let path := Path.ofClass root d.package d.className
    if Path.hasParent path then
      match write t path d.source with
      | (t, some failure) => (.error (.io path failure), t)
      | (t, none) => (.ok [.beanWritten path], t)
    else (.error (.rejected ("no parent directory for " ++ Text.quoted path)), t)

/-- Files are written with all directories above them. -/
def sink (root : String) : Sink FileTree := sinkBy writeText root

end FileTree

end RecordBean
