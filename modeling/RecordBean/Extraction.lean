import RecordBean.Catalog
import RecordBean.Settings
import RecordBean.Text.Blank

/-! # Extraction

The schema of one host type: its names split, its package settled, its components checked in order
and looked up in the catalog.
-/

namespace RecordBean
open RecordBean.Text

/-- Why a host type has no schema. -/
inductive ExtractError where
  | notARecord (typeName kind : String)
  | duplicateComponent (typeName component : String)
  /-- A component has a blank name or type. -/
  | emptyComponent (typeName : String)
  /-- The explicit package is not the qualifier of the name. A component of this type would be
  typed by the bean beside it, and a bean put anywhere else could not be found. -/
  | packageMismatch (typeName derived package : String)
deriving DecidableEq, Repr

def ExtractError.message : ExtractError → String
  | .notARecord typeName kind => "`" ++ typeName ++ "` is a " ++ kind ++ ", not a record"
  | .duplicateComponent typeName component =>
    "`" ++ typeName ++ "` declares component `" ++ component ++ "` more than once"
  | .emptyComponent typeName => "`" ++ typeName ++ "` has a component with an empty name or type"
  | .packageMismatch typeName derived package =>
    "`" ++ typeName ++ "` is declared in `" ++ derived ++ "` but its package is set to `"
      ++ package ++ "`"

namespace Extraction

/-- Whether a component lacks a name or a type. -/
def isIncomplete (c : Component) : Bool := allBlank c.name || allBlank c.type

/-- The field of a component whose type is named inside `package`. -/
def fieldOf (catalog : Catalog) (package : Option String) (c : Component) : Field where
  name := c.name
  declaredType := c.type
  isNested := (catalog.resolve? c.type package).any (·.hasBean)

/-- The first component, in order, that is incomplete or repeats a name is refused; `seen` holds
the names already passed. -/
def checkComponents (typeName : String) (seen : List String) :
    List Component → Except ExtractError Unit
  | [] => .ok ()
  | c :: rest =>
    if isIncomplete c then .error (.emptyComponent typeName)
    else if c.name ∈ seen then .error (.duplicateComponent typeName c.name)
    else checkComponents typeName (c.name :: seen) rest

/-- Whether an explicit package contradicts the qualifier of the name; the qualifier and the
package are given back. -/
def packageConflict? (h : HostType) : Option (String × String) :=
  match h.package, (Name.splitQualified h.name).1 with
  | some package, some derived => if package = derived then none else some (derived, package)
  | _, _ => none

/-- The package of a host type: the explicit one, else the qualifier of the name, else the one that
the settings give to bare names. -/
def packageOf (settings : Settings) (h : HostType) : Option String :=
  (h.package <|> (Name.splitQualified h.name).1) <|> settings.defaultPackage

end Extraction

open Extraction in
/-- The schema of a host type, which need not be marked. -/
def extract (catalog : Catalog) (settings : Settings) (h : HostType) :
    Except ExtractError Schema :=
  if h.kind = .record then
    match packageConflict? h with
    | some (derived, package) => .error (.packageMismatch h.name derived package)
    | none =>
      match checkComponents h.name [] h.components with
      | .error e => .error e
      | .ok () =>
        let package := packageOf settings h
        let marker := h.marker.getD Marker.plain
        .ok {
          qualifiedName := h.name
          simpleName := (Name.splitQualified h.name).2
          packageName := package
          visibility := .ofModifiers h.modifiers
          fields := h.components.map (fieldOf catalog package)
          extraAnnotations := marker.annotations
          extraInterfaces := marker.interfaces }
  else .error (.notARecord h.name h.kind.label)

end RecordBean
