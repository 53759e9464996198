import RecordBean.Schema
import RecordBean.Text.Lines

/-! # Members of a bean class

The six members of a bean, each a text for the class body that ends in a line feed (the accessors
of a record without components are empty). A member depends on the fields, in their order, and on
the two type names; it is written line by line.
-/

namespace RecordBean
open RecordBean.Text

/-- The two type names that occur in members. -/
structure TypeNames where
  /-- Simple name of the bean. -/
  bean : String
  /-- Qualified name of the record. -/
  record : String
deriving DecidableEq, Repr

def TypeNames.of (s : Schema) : TypeNames := ⟨s.beanName, s.qualifiedName⟩

namespace Member

/-- A line at the depth of a member. -/
def outer (line : String) : String := "  " ++ line

/-- A line at the depth of a statement. -/
def inner (line : String) : String := "    " ++ line

/-- The line that closes a member. -/
def close : String := outer "\x7d"

/-- A text as code inside a doc comment. -/
def inlineCode (text : String) : String := "\x7b@code " ++ text ++ "\x7d"

/-! ## From a record to a bean -/

/-- The constructor argument for a field: the component itself, or its bean unless it is null. -/
def recordValue (f : Field) : String :=
  let value := "record." ++ f.name ++ "()"
  if f.isNested then value ++ " == null ? null : " ++ f.beanType ++ ".fromRecord(" ++ value ++ ")"
  else value

def fromRecordLines (fields : List Field) (names : TypeNames) : List String := [
  outer ("/** Builds a bean from the given " ++ inlineCode names.record ++ " record. */"),
  outer ("public static " ++ names.bean ++ " fromRecord(" ++ names.record ++ " record) \x7b"),
  inner ("return new " ++ names.bean ++ "(" ++ commaSeparated (fields.map recordValue) ++ ");"),
  close]

/-- The static method that builds a bean from a record. -/
def fromRecord (fields : List Field) (names : TypeNames) : String :=
  unlines (fromRecordLines fields names)

/-! ## Constructors -/

def parameter (f : Field) : String := f.beanType ++ " " ++ f.name

def assignment (f : Field) : String := inner ("this." ++ f.name ++ " = " ++ f.name ++ ";")

def nullConstructorLines (names : TypeNames) : List String := [
  outer "/** Creates a bean with every field at its type default. */",
  outer ("public " ++ names.bean ++ "() \x7b\x7d")]

def canonicalConstructorLines (fields : List Field) (names : TypeNames) : List String :=
  [outer "/** Creates a bean from field values in declaration order. */",
   outer ("public " ++ names.bean ++ "(" ++ commaSeparated (fields.map parameter) ++ ") \x7b")]
  ++ fields.map assignment ++ [close]

/-- Without fields the canonical constructor would repeat the one without parameters, so it is
left out. -/
def constructorLines (fields : List Field) (names : TypeNames) : List String :=
  if fields.isEmpty then nullConstructorLines names
  else nullConstructorLines names ++ "" :: canonicalConstructorLines fields names

def constructors (fields : List Field) (names : TypeNames) : String :=
  unlines (constructorLines fields names)

/-! ## Storage and accessors -/

def storage (f : Field) : String := outer ("private " ++ f.beanType ++ " " ++ f.name ++ ";")

def getterLines (f : Field) : List String := [
  outer ("/** Gets the value of " ++ inlineCode f.name ++ ". */"),
  outer ("public " ++ f.beanType ++ " " ++ f.getter ++ "() \x7b"),
  inner ("return this." ++ f.name ++ ";"),
  close]

def setterLines (f : Field) (names : TypeNames) : List String := [
  outer ("/** Sets the value of " ++ inlineCode f.name ++ ". */"),
  outer ("public " ++ names.bean ++ " " ++ f.setter ++ "(" ++ parameter f ++ ") \x7b"),
  assignment f,
  inner "return this;",
  close]

def fieldLines (names : TypeNames) (f : Field) : List String :=
  storage f :: "" :: getterLines f ++ "" :: setterLines f names

/-- An empty line stands between the fields. -/
def accessorLines (names : TypeNames) : List Field → List String
  | [] => []
  | [f] => fieldLines names f
  | f :: g :: rest => fieldLines names f ++ "" :: accessorLines names (g :: rest)

/-- The storage of every field with its getter and its setter. -/
def accessors (fields : List Field) (names : TypeNames) : String :=
  unlines (accessorLines names fields)

/-! ## Equality

Fields are compared with `==`: by value for primitives and by reference for all else, so that two
beans with equal but distinct nested beans differ. -/

/-- The name under which `equals` knows the other bean. -/
def otherName (names : TypeNames) : String := "other" ++ names.bean

def comparison (names : TypeNames) (f : Field) : String :=
  inner ("    && this." ++ f.name ++ " == " ++ otherName names ++ "." ++ f.getter ++ "()")

def equalsLines (fields : List Field) (names : TypeNames) : List String :=
  [outer "@Override",
   outer "public boolean equals(Object other) \x7b",
   inner "return this == other || (",
   inner ("  other instanceof " ++ names.bean ++ " " ++ otherName names)]
  ++ fields.map (comparison names) ++ [inner ");", close]

def hashCodeLines (fields : List Field) : List String := [
  outer "@Override",
  outer "public int hashCode() \x7b",
  inner ("return Objects.hash(" ++ commaSeparated (fields.map ("this." ++ ·.name)) ++ ");"),
  close]

def equality (fields : List Field) (names : TypeNames) : String :=
  unlines (equalsLines fields names ++ "" :: hashCodeLines fields)

/-! ## From a bean to a record -/

/-- The record component for a field: the value itself, or its record unless it is null. -/
def beanValue (f : Field) : String :=
  let value := "this." ++ f.getter ++ "()"
  if f.isNested then value ++ " == null ? null : " ++ value ++ ".toRecord()" else value

def toRecordLines (fields : List Field) (names : TypeNames) : List String := [
  outer ("/** Builds a " ++ inlineCode names.record ++ " record from this bean. */"),
  outer ("public " ++ names.record ++ " toRecord() \x7b"),
  inner ("return new " ++ names.record ++ "(" ++ commaSeparated (fields.map beanValue) ++ ");"),
  close]

/-- The method that builds a record from a bean. -/
def toRecord (fields : List Field) (names : TypeNames) : String :=
  unlines (toRecordLines fields names)

/-! ## Text of a bean -/

/-- One operand pair of the concatenation. -/
def shownField (f : Field) : String :=
  inner ("  + \"" ++ f.name ++ "=\" + this." ++ f.name)

/-- Every field but the last one is followed by a separator. -/
def shownFieldLines : List Field → List String
  | [] => []
  | [f] => [shownField f]
  | f :: g :: rest => (shownField f ++ " + \", \"") :: shownFieldLines (g :: rest)

def shownLines (fields : List Field) (names : TypeNames) : List String :=
  if fields.isEmpty then [inner ("return \"" ++ names.bean ++ "[]\";")]
  else inner ("return \"" ++ names.bean ++ "[\"") :: shownFieldLines fields ++ [inner "  + \"]\";"]

def toStringLines (fields : List Field) (names : TypeNames) : List String :=
  [outer "@Override", outer "public String toString() \x7b"] ++ shownLines fields names ++ [close]

/-- `toString`, which shows the fields in order as `name=value`. -/
def toString (fields : List Field) (names : TypeNames) : String :=
  unlines (toStringLines fields names)

end Member

/-- The six members of one bean. -/
structure Members where
  /-- The bean for which they were written. -/
  beanName : String
  fromRecord : String
  constructors : String
  accessors : String
  equality : String
  toRecord : String
  toString : String
deriving DecidableEq, Repr

namespace Members

/-- Write all six members for a schema. -/
def of (s : Schema) : Members :=
  let names := TypeNames.of s
  { beanName := names.bean
    fromRecord := Member.fromRecord s.fields names
    constructors := Member.constructors s.fields names
    accessors := Member.accessors s.fields names
    equality := Member.equality s.fields names
    toRecord := Member.toRecord s.fields names
    toString := Member.toString s.fields names }

/-- The members in the order of the class body; the accessors, which hold the storage, come
last. -/
def inOrder (m : Members) : List String :=
  [m.fromRecord, m.constructors, m.equality, m.toRecord, m.toString, m.accessors]

@[simp] theorem beanName_of (s : Schema) : (of s).beanName = s.beanName := rfl

end Members

end RecordBean
