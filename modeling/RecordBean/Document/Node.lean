import RecordBean.Decimal.Shortest
import RecordBean.Text.Lines
import RecordBean.Text.Quoted

/-! # Document trees

What a reader of a document hands to the decoding of values. A tree holds the data in the order in
which it is decoded. Where reading had to stop, the tree says so in place: what was read before is
there, and decoding meets the fault only if it comes that far. That way the first fault in reading
order is the one reported, whether the text is broken there or the data has the wrong shape.
-/

namespace RecordBean.Document
open RecordBean.Text RecordBean.Decimal

inductive Dialect where
  /-- JSON, decoded while the text is read. -/
  | jsonText
  /-- A JSON value that has been read before. -/
  | jsonTree
  | toml
deriving DecidableEq, Repr

/-- How floating point numbers are written: in JSON with an exponent below `10 ^ -5` and from
`10 ^ 16` on, with a tie going to the even digit, and in TOML never with an exponent, with a tie
going up. -/
def Dialect.floats : Dialect → Style
  | .jsonText | .jsonTree => ⟨.toEven, some ⟨-5, 15⟩⟩
  | .toml => ⟨.up, none⟩

inductive Numeral where
  | integer (value : Int)
  | float (value : Float)

namespace Numeral

/-- A number as messages show it. Integers beyond 64 bits come with their width. -/
def shown (d : Dialect) : Numeral → String
  | .integer value =>
    let digits := "integer `" ++ toString value ++ "`"
    if -(twoTo 63 : Int) ≤ value ∧ value < twoTo 64 then digits
    else if value < twoTo 127 then digits ++ " as i128"
    else digits ++ " as u128"
  | .float value => "floating point `" ++ Decimal.shown d.floats value ++ "`"

end Numeral

/-- What stands where something else is wanted. -/
inductive Found where
  | nothing
  | boolean (value : Bool)
  | number (value : Numeral)
  | text (value : String)
  | list
  | table

def Found.shown (d : Dialect) : Found → String
  | .nothing => "null"
  | .boolean value => if value then "boolean `true`" else "boolean `false`"
  | .number value => value.shown d
  | .text value => "string " ++ quoted value
  | .list => "sequence"
  | .table => "map"

/-- Data of the wrong shape. -/
inductive Mismatch where
  | wrongType (found : Found) (wanted : String)
  | wrongValue (found : Found) (wanted : String)
  | wrongLength (length : Nat) (wanted : String)
  | missingField (field : String)
  | duplicateField (field : String)
  | unknownVariant (found : String) (known : List String)
  /-- A variant has to be given by its name, or by a table with one key. -/
  | notAVariant
  | noVariant
  | severalVariants
  /-- A variant without content has something of the given sort behind it. -/
  | contentNotATable (sort : String)
  | contentNotEmpty (sort : String)
  | integerTooLarge
  | floatTooLarge

def Mismatch.message (d : Dialect) : Mismatch → String
  | .wrongType found wanted => "invalid type: " ++ found.shown d ++ ", expected " ++ wanted
  | .wrongValue found wanted => "invalid value: " ++ found.shown d ++ ", expected " ++ wanted
  | .wrongLength length wanted =>
    "invalid length " ++ toString length ++ ", expected " ++ wanted
  | .missingField field => "missing field `" ++ field ++ "`"
  | .duplicateField field => "duplicate field `" ++ field ++ "`"
  | .unknownVariant found known =>
    "unknown variant `" ++ found ++ "`, expected one of "
      ++ commaSeparated (known.map fun v => "`" ++ v ++ "`")
  | .notAVariant => "wanted string or table"
  | .noVariant => "wanted exactly 1 element, found 0 elements"
  | .severalVariants => "wanted exactly 1 element, more than 1 element"
  | .contentNotATable sort => "expected table, found " ++ sort
  | .contentNotEmpty sort => "expected empty " ++ sort
  | .integerTooLarge => "integer number overflowed"
  | .floatTooLarge => "floating-point number overflowed"

/-- Why a document gives no value. -/
inductive Fault where
  /-- The text is no document. -/
  | malformed
  /-- The text ends inside a value. -/
  | unfinished
  | mismatch (m : Mismatch)

/-- A place that cannot be read, by what is wanted there. -/
structure Gap where
  /-- The fault if any value is wanted. -/
  asValue : Fault
  /-- The fault if a variant is wanted. -/
  asVariant : Fault
  /-- The fault if the place stands behind the name of a variant. -/
  asContent : Fault
  /-- The fault if the place is skipped; a place can be well-formed and yet hold no value. -/
  asSkipped : Option Fault

/-- A place that is faulty whatever is wanted there. -/
def Gap.always (f : Fault) : Gap := ⟨f, f, f, some f⟩

inductive Key where
  | name (text : String)
  /-- A key that cannot be read, by what is wanted there. -/
  | gap (gap : Gap)

/-- A tree of data. A list or a table that does not end has the fault met behind its last entry. -/
inductive Node where
  | null
  | boolean (value : Bool)
  | number (value : Numeral)
  | text (value : String)
  | date
  | list (items : List Node) (cut : Option Fault)
  | table (entries : List (Key × Node)) (cut : Option Fault)
  | gap (gap : Gap)

namespace Node

/-- A node as messages show it. Dates are shown as tables. -/
def found : Node → Found
  | .null => .nothing
  | .boolean value => .boolean value
  | .number value => .number value
  | .text value => .text value
  | .list .. => .list
  | .date | .table .. | .gap _ => .table

/-- The fault of a node that stands where something else is wanted. -/
def unexpected (n : Node) (wanted : String) : Fault :=
  match n with
  | .gap g => g.asValue
  | n => .mismatch (.wrongType n.found wanted)

end Node

def Key.skipFault? : Key → Option Fault
  | .name _ => none
  | .gap g => g.asSkipped

mutual

/-- The fault met in passing over a node without decoding it. -/
def Node.skipFault? : Node → Option Fault
  | .list items cut => skipItems items <|> cut
  | .table entries cut => skipEntries entries <|> cut
  | .gap g => g.asSkipped
  | _ => none

def skipItems : List Node → Option Fault
  | [] => none
  | n :: rest => n.skipFault? <|> skipItems rest

def skipEntries : List (Key × Node) → Option Fault
  | [] => none
  | (key, n) :: rest => key.skipFault? <|> n.skipFault? <|> skipEntries rest

end

end RecordBean.Document
