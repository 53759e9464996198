import RecordBean.Json
import RecordBean.Json.Quoted

/-! # Writing JSON

The compact text of a JSON value: no white space, members in their order.
-/

namespace RecordBean.Json
open RecordBean.Document

def writeNumeral : Numeral → List Char
  | .integer value => (toString value).toList
  | .float value => (Decimal.shown Dialect.jsonText.floats value).toList

mutual

def write : Json → List Char
  | .null => "null".toList
  | .boolean value => (if value then "true" else "false").toList
  | .number value => writeNumeral value
  | .text value => Quoted.encode value
  | .list items => '[' :: writeItems items ++ [']']
  | .object members => '\x7b' :: writeMembers members ++ ['\x7d']

/-- Items with commas between them. -/
def writeItems : List Json → List Char
  | [] => []
  | [j] => j.write
  | j :: k :: rest => j.write ++ ',' :: writeItems (k :: rest)

/-- Members with commas between them. -/
def writeMembers : List (String × Json) → List Char
  | [] => []
  | [(name, j)] => Quoted.encode name ++ ':' :: j.write
  | (name, j) :: m :: rest =>
    Quoted.encode name ++ ':' :: (j.write ++ ',' :: writeMembers (m :: rest))

end

def render (j : Json) : String := String.ofList j.write

end RecordBean.Json
