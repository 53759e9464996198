import RecordBean.Members
import RecordBean.Text.Blank

/-! # Source files

The source file of one bean: checked and laid out from a schema and its members, then printed. The
type names are part of the members from the start, so that nothing is ever substituted into
finished text.
-/

namespace RecordBean
open RecordBean.Text

/-- Why a bean cannot be written. -/
inductive RenderError where
  /-- A name that has to be an identifier is none. -/
  | invalidIdentifier (name : String)
  /-- Two fields would get the same accessors. -/
  | accessorClash (first second capName : String)
  /-- The members were written for another bean. -/
  | memberMismatch (expected actual : String)
  /-- The text could not be put together. -/
  | unprintable
deriving DecidableEq, Repr

def RenderError.message : RenderError → String
  | .invalidIdentifier name => "`" ++ name ++ "` is not a valid Java identifier"
  | .accessorClash first second capName =>
    "fields `" ++ first ++ "` and `" ++ second ++ "` both map to accessor suffix `" ++ capName
      ++ "`"
  | .memberMismatch expected actual =>
    "fragments belong to `" ++ actual ++ "`, expected `" ++ expected ++ "`"
  | .unprintable => "formatting failed"

/-- The layout of a source file with a single bean class. -/
structure SourceFile where
  header : String
  package : Option String
  imports : List String
  doc : String
  annotations : List String
  /-- The keyword of the access level, if it has one. -/
  visibility : Option String
  className : String
  interfaces : List String
  members : List String
deriving DecidableEq, Repr

namespace SourceFile

/-! ## Checks -/

/-- The first field, in order, that is no identifier or that has the accessor suffix of an earlier
one is refused. `earlier` holds the fields already accepted. -/
def checkFields (earlier : List Field) : List Field → Except RenderError Unit
  | [] => .ok ()
  | f :: rest =>
    if Name.isIdentifier f.name then
      match earlier.find? (·.capName == f.capName) with
      | some g => .error (.accessorClash g.name f.name f.capName)
      | none => checkFields (earlier ++ [f]) rest
    else .error (.invalidIdentifier f.name)

/-- Refuse members of another bean and names with which the class would not compile. -/
def check (s : Schema) (m : Members) : Except RenderError Unit :=
  if m.beanName = s.beanName then
    if Name.isIdentifier s.simpleName then checkFields [] s.fields
    else .error (.invalidIdentifier s.simpleName)
  else .error (.memberMismatch s.beanName m.beanName)

/-! ## Layout -/

/-- Separate every star and slash that would end a comment. -/
def harmlessChars : List Char → List Char
  | [] => []
  | [c] => [c]
  | c :: d :: rest =>
    if c = '*' ∧ d = '/' then '*' :: ' ' :: '/' :: harmlessChars rest
    else c :: harmlessChars (d :: rest)

/-- A text that can stand in a comment without ending it. -/
def harmless (text : String) : String := String.ofList (harmlessChars text.toList)

/-- Lay out the file for a schema, once its members are known to fit. Empty members are left
out. -/
def assemble (s : Schema) (m : Members) (header : String) : Except RenderError SourceFile :=
  match check s m with
  | .error e => .error e
  | .ok () => .ok {
      header := harmless header
      package := s.packageName
      imports := ["java.util.Objects"]
      doc := "A mutable bean interoperable with " ++ Member.inlineCode s.qualifiedName
        ++ " records."
      annotations := s.extraAnnotations
      visibility := s.visibility.keyword
      className := m.beanName
      interfaces := s.extraInterfaces
      members := m.inOrder.filter (!·.isEmpty) }

/-! ## Printing -/

/-- The comment at the top; a blank header has none. -/
def printHeader (header : String) : String :=
  let text := trim header
  if text.isEmpty then "" else "/* " ++ text ++ " */\n"

def printPackage : Option String → String
  | some p => "package " ++ p ++ ";\n\n"
  | none => ""

def printVisibility : Option String → String
  | some keyword => keyword ++ " "
  | none => ""

def printInterfaces (interfaces : List String) : String :=
  if interfaces.isEmpty then "" else " implements " ++ commaSeparated interfaces

/-- An empty line stands before every member. -/
def printMembers : List String → String
  | [] => ""
  | m :: rest => "\n" ++ m ++ printMembers rest

def printClassHead (f : SourceFile) : String :=
  printVisibility f.visibility ++ "final class " ++ f.className ++ printInterfaces f.interfaces
    ++ " \x7b\n"

def printBody (f : SourceFile) : String :=
  printPackage f.package ++ unlines (f.imports.map ("import " ++ · ++ ";")) ++ "\n"
    ++ "/** " ++ f.doc ++ " */\n" ++ unlines (f.annotations.map ("@" ++ ·))
    ++ printClassHead f ++ printMembers f.members ++ "\x7d\n"

def print (f : SourceFile) : String := printHeader f.header ++ printBody f

end SourceFile

/-- The header of files for which none is asked. -/
def defaultHeader : String := "Generated by beanerator. Do not edit."

/-- The source of a bean. A blank header leaves the comment at the top out. -/
def render (s : Schema) (m : Members) (header : String) : Except RenderError String :=
  (SourceFile.assemble s m header).map SourceFile.print

/-- The source of a schema's bean with its own members. -/
def renderOwn (s : Schema) (header : String) : Except RenderError String :=
  render s (Members.of s) header

end RecordBean
