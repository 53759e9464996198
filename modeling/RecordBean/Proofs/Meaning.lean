import RecordBean.Extraction
import RecordBean.Proofs.Reading.Storage

/-! # What the printed members do

Record values and beans, and the two conversions between them as the printed members perform them.
Every step reads a member's text: the arguments that a conversion hands over, the constructor that
takes so many, the fields it stores, and the getter that gives one of them out. What a conversion
leaves to the beans of nested fields is the same again, one level down; the number of levels is
bounded from outside, and a conversion without enough levels has no result. -/

namespace RecordBean.Meaning
open RecordBean.Reading

variable {α : Type}

/-! ## Values -/

/-- What a component or a field can hold. Where no bean is involved, any value is passed on. -/
inductive Value (α : Type) where
  | given (a : α)
  | null
  /-- A record of the given host type with its component values, in order. -/
  | record (type : HostType) (components : List (Value α))
  /-- The bean of the given host type with its stored fields, the last one stored first. -/
  | bean (type : HostType) (stored : List (String × Value α))

mutual

/-- How many records lie inside each other. -/
def Value.depth : Value α → Nat
  | .record _ components => depthOfAll components + 1
  | .given _ | .null | .bean _ _ => 0

def depthOfAll : List (Value α) → Nat
  | [] => 0
  | v :: vs => max v.depth (depthOfAll vs)

end

/-- A component of a record, by name. -/
def Value.component? : Value α → String → Option (Value α)
  | .record type components, name =>
    ((type.components.map (·.name)).zip components).lookup name
  | _, _ => none

/-! ## Expressions -/

/-- What the calls in an expression do. -/
structure Scope (α : Type) where
  component : String → Option (Value α)
  getter : String → Option (Value α)
  /-- The bean of a record, from the bean type as it is written. -/
  fromRecord : String → Value α → Option (Value α)
  toRecord : Value α → Option (Value α)

def evaluate (scope : Scope α) : Expr → Option (Value α)
  | .component name => scope.component name
  | .getter method => scope.getter method
  | .fromRecord type value => do scope.fromRecord type (← evaluate scope value)
  | .toRecord value => do scope.toRecord (← evaluate scope value)
  | .unlessNull tested result => do
    match ← evaluate scope tested with
    | .null => some .null
    | _ => evaluate scope result

/-! ## Objects -/

/-- Run the assignments of a constructor over what is stored so far. -/
def runAssignments (arguments : List (String × Value α)) :
    List (String × String) → List (String × Value α) → Option (List (String × Value α))
  | [], stored => some stored
  | (field, parameter) :: rest, stored => do
    let value ← arguments.lookup parameter
    runAssignments arguments rest ((field, value) :: stored)

/-- A new bean, by the constructor with as many parameters as there are arguments. -/
def construct (constructors : List Constructor) (type : HostType) (arguments : List (Value α)) :
    Option (Value α) := do
  let c ← constructors.find? (·.parameters.length == arguments.length)
  let stored ← runAssignments ((c.parameters.map (·.2)).zip arguments) c.assignments []
  some (.bean type stored)

/-- What a getter gives out. -/
def callGetter (getters : List (String × String)) (stored : List (String × Value α))
    (method : String) : Option (Value α) := do
  stored.lookup (← getters.lookup method)

/-! ## Conversions -/

/-- The schema of a host type. -/
def schema? (catalog : Catalog) (settings : Settings) (type : HostType) : Option Schema :=
  (extract catalog settings type).toOption

/-- The record with a bean that a component type means inside a package. -/
def nestedRecord? (catalog : Catalog) (package : Option String) (type : String) :
    Option HostType :=
  (catalog.resolve? type package).filter (·.hasBean)

/-- The record that a bean type was written for. -/
def recordOfBeanType? (catalog : Catalog) (package : Option String) (beanType : String) :
    Option HostType := do
  let type ← beanType.toList.dropSuffix? Name.beanSuffix.toList
  nestedRecord? catalog package (String.ofList type)

/-- The bean that the static method of a host type's bean builds from a record. -/
def beanOf (catalog : Catalog) (settings : Settings) : Nat → HostType → Value α → Option (Value α)
  | 0, _, _ => none
  | levels + 1, type, record => do
    let s ← schema? catalog settings type
    let expressions ← readFromRecord (TypeNames.of s) (Members.of s).fromRecord
    let arguments ← expressions.mapM (evaluate {
      component := record.component?
      getter := fun _ => none
      fromRecord := fun beanType value => do
        beanOf catalog settings levels (← recordOfBeanType? catalog s.packageName beanType) value
      toRecord := fun _ => none })
    let constructors ← readConstructors s.beanName (lines (Members.of s).constructors)
    construct constructors type arguments

/-- The record that the method of a bean builds from it. -/
def recordOf (catalog : Catalog) (settings : Settings) : Nat → Value α → Option (Value α)
  | levels + 1, .bean type stored => do
    let s ← schema? catalog settings type
    let expressions ← readToRecord (TypeNames.of s) (Members.of s).toRecord
    let arguments ← expressions.mapM (evaluate {
      component := fun _ => none
      getter := callGetter (readGetters (lines (Members.of s).accessors)) stored
      fromRecord := fun _ _ => none
      toRecord := recordOf catalog settings levels })
    if arguments.length = type.components.length then some (.record type arguments) else none
  | _, _ => none

/-! ## Record values -/

mutual

/-- A value of a record type: a component whose type is a record with a bean is null or a value of
that record, and any other component is anything. -/
def IsRecordOf (catalog : Catalog) (settings : Settings) (type : HostType) : Value α → Prop
  | .record t components =>
    t = type ∧ Fill catalog settings (Extraction.packageOf settings type) type.components components
  | .given _ | .null | .bean _ _ => False

/-- Values for declared components, one for each, in order. -/
def Fill (catalog : Catalog) (settings : Settings) (package : Option String) :
    List Component → List (Value α) → Prop
  | [], [] => True
  | c :: cs, v :: vs =>
    (match nestedRecord? catalog package c.type with
      | some nested => v = .null ∨ IsRecordOf catalog settings nested v
      | none => True)
    ∧ Fill catalog settings package cs vs
  | [], _ :: _ | _ :: _, [] => False

end

end RecordBean.Meaning
