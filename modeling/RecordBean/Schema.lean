import RecordBean.Name
import RecordBean.Visibility

/-! # Schemas

What the members of a bean are written from: the components of one record, its names, and what the
bean takes over from the marker.
-/

namespace RecordBean

/-- One record component, as the bean stores it. -/
structure Field where
  name : String
  /-- The declared type, verbatim. -/
  declaredType : String
  /-- Whether the declared type is itself a record with a bean. -/
  isNested : Bool
deriving DecidableEq, Repr

namespace Field

/-- The type under which the bean stores the component: a nested record is stored as its bean. -/
def beanType (f : Field) : String :=
  if f.isNested then Name.companion f.declaredType else f.declaredType

def capName (f : Field) : String := Name.capitalize f.name

/-- The name of the method that reads the field. -/
def getter (f : Field) : String := "get" ++ f.capName

/-- The name of the method that writes the field. -/
def setter (f : Field) : String := "set" ++ f.capName

end Field

/-- All that is known about one record when its bean is written. -/
structure Schema where
  qualifiedName : String
  simpleName : String
  /-- Absent for the unnamed package. -/
  packageName : Option String
  visibility : Visibility
  /-- The components in declaration order. -/
  fields : List Field
  /-- What stands behind an `@` above the class. -/
  extraAnnotations : List String
  /-- The interfaces that the bean declares. -/
  extraInterfaces : List String
deriving DecidableEq, Repr

namespace Schema

def beanName (s : Schema) : String := Name.companion s.simpleName

/-- The qualified name of the bean, under which its source is kept. -/
def beanQualifiedName (s : Schema) : String := Name.qualify s.packageName s.beanName

/-- The fields that hold beans. -/
def nestedFields (s : Schema) : List Field := s.fields.filter (·.isNested)

end Schema

end RecordBean
