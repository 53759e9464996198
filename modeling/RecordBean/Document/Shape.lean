import RecordBean.Document.Node

/-! # Decoding document trees

Readers of single values, of variants and of records. A record may stand as a table, with its
entries in any order and unknown entries passed over, or as a list of its fields in declaration
order. The kinds of documents agree on this and differ in a few decisions, which are made here.
-/

namespace RecordBean.Document

abbrev Reader (α : Type) := Dialect → Node → Except Fault α

/-! ## Values -/

/-- A text, wanted under the given description. -/
def readTextAs (wanted : String) : Reader String := fun _ n =>
  match n with
  | .text s => .ok s
  | n => .error (n.unexpected wanted)

def readText : Reader String := readTextAs "a string"

/-- The text of a path. -/
def readPath : Reader String := readTextAs "path string"

def readBoolean : Reader Bool := fun _ n =>
  match n with
  | .boolean b => .ok b
  | n => .error (n.unexpected "a boolean")

/-- Null stands for nothing. -/
def readOption {α : Type} (read : Reader α) : Reader (Option α) := fun d n =>
  match n with
  | .null => .ok none
  | n => (read d n).map some

/-- The faults of the items come before the one behind them. -/
def readList {α : Type} (read : Reader α) : Reader (List α) := fun d n =>
  match n with
  | .list items cut =>
    match items.mapM (read d), cut with
    | .error f, _ => .error f
    | .ok _, some f => .error f
    | .ok values, none => .ok values
  | n => .error (n.unexpected "a sequence")

/-! ## Variants -/

/-- The fault of what stands behind the name of a variant without content in TOML, where an empty
table or list is no content. -/
def tomlContentFault? : Node → Option Fault
  | .table [] _ | .list [] _ => none
  | .table .. => some (.mismatch (.contentNotEmpty "table"))
  | .list .. => some (.mismatch (.contentNotEmpty "array"))
  | .null => some (.mismatch (.contentNotATable "null"))
  | .boolean _ => some (.mismatch (.contentNotATable "boolean"))
  | .number (.integer _) => some (.mismatch (.contentNotATable "integer"))
  | .number (.float _) => some (.mismatch (.contentNotATable "float"))
  | .text _ => some (.mismatch (.contentNotATable "string"))
  | .date => some (.mismatch (.contentNotATable "datetime"))
  | .gap g => some g.asContent

/-- The fault of what stands behind the name of a variant without content. -/
def contentFault? (d : Dialect) (content : Node) : Option Fault :=
  match d, content with
  | .toml, n => tomlContentFault? n
  | _, .null => none
  | _, .gap g => some g.asContent
  | _, n => some (n.unexpected "unit")

/-- A variant given as a table with its name as the only key. JSON text is decoded before it is
known what follows the entry. -/
def readTaggedVariant {α : Type} (known : String → Except Fault α) (d : Dialect)
    (entries : List (Key × Node)) (cut : Option Fault) : Except Fault α :=
  match d, entries with
  | .toml, [] => .error (.mismatch .noVariant)
  | .toml, _ :: _ :: _ => .error (.mismatch .severalVariants)
  | .jsonTree, [] => .error (.mismatch (.wrongValue .table "map with a single key"))
  | .jsonTree, _ :: _ :: _ => .error (.mismatch (.wrongValue .table "map with a single key"))
  | .jsonText, [] => .error (cut.getD .malformed)
  | _, (.gap g, _) :: _ => .error g.asVariant
  | d, (.name name, content) :: rest => do
    let variant ← known name
    match contentFault? d content, rest, cut with
    | some fault, _, _ => .error fault
    | none, [], none => .ok variant
    | none, [], some fault => .error fault
    | none, _ :: _, _ => .error .malformed

/-- The variant of a given name; `labels` are the known names, for the message. -/
def knownVariant {α : Type} (labels : List String) (ofLabel? : String → Option α)
    (name : String) : Except Fault α :=
  match ofLabel? name with
  | some variant => .ok variant
  | none => .error (.mismatch (.unknownVariant name labels))

/-- A variant, by its name or as a table with its name as the only key. -/
def readVariant {α : Type} (labels : List String) (ofLabel? : String → Option α) : Reader α :=
  fun d n =>
    match d, n with
    | _, .text name => knownVariant labels ofLabel? name
    | d, .table entries cut => readTaggedVariant (knownVariant labels ofLabel?) d entries cut
    | .toml, _ => .error (.mismatch .notAVariant)
    | _, .gap g => .error g.asVariant
    | .jsonText, _ => .error .malformed
    | .jsonTree, n => .error (n.unexpected "string or map")

/-! ## Records -/

/-- Whether a field can be left out. -/
inductive Presence where
  | required
  /-- Nothing stands for an entry left out of a table, but a list has to hold the field. -/
  | nullable
  /-- A default stands for the field in tables, and at the end of lists. -/
  | defaulted
deriving DecidableEq, Repr

/-- How one field of a record is read and put into the record. -/
structure FieldRule (α : Type) where
  name : String
  presence : Presence
  read : Dialect → Node → α → Except Fault α

/-- A rule from a reader and a way to set the field. -/
def FieldRule.of {α β : Type} (name : String) (presence : Presence) (read : Reader β)
    (set : β → α → α) : FieldRule α where
  name := name
  presence := presence
  read d n record := (read d n).map (set · record)

/-- How a record is read. -/
structure Shape (α : Type) where
  /-- The name under which messages know the record. -/
  name : String
  /-- The fields in declaration order. -/
  rules : List (FieldRule α)
  /-- The record before reading: every default is set, and every required field is read over. -/
  initial : α

namespace Shape
variable {α : Type}

def rule? (s : Shape α) (name : String) : Option (FieldRule α) :=
  s.rules.find? (·.name == name)

/-- The record as messages want it. -/
def wanted (s : Shape α) : String := "struct " ++ s.name

/-- The record as messages about lists want it. -/
def wantedItems (s : Shape α) : String :=
  s.wanted ++ " with " ++ toString s.rules.length
    ++ (if s.rules.length = 1 then " element" else " elements")

/-- Read one entry of a table. `seen` holds the names of the fields already read. -/
def readEntry (s : Shape α) (d : Dialect) :
    List String × α → Key × Node → Except Fault (List String × α)
  | _, (.gap g, _) => .error g.asValue
  | (seen, record), (.name name, n) =>
    match s.rule? name with
    | none =>
      match n.skipFault? with
      | some fault => .error fault
      | none => .ok (seen, record)
    | some rule =>
      if name ∈ seen then .error (.mismatch (.duplicateField name))
      else (rule.read d n record).map fun record => (name :: seen, record)

/-- The first required field, in declaration order, that was not read. -/
def missing? (s : Shape α) (seen : List String) : Option String :=
  (s.rules.find? fun r => r.presence == .required && !seen.contains r.name).map (·.name)

/-- Read a record from a table. Missing fields are noticed behind the last entry. -/
def readTable (s : Shape α) (d : Dialect) (entries : List (Key × Node)) (cut : Option Fault) :
    Except Fault α :=
  match entries.foldlM (s.readEntry d) ([], s.initial), cut with
  | .error fault, _ => .error fault
  | .ok _, some fault => .error fault
  | .ok (seen, record), none =>
    match s.missing? seen with
    | some name => .error (.mismatch (.missingField name))
    | none => .ok record

/-- What becomes of a list that is longer than the record. -/
def surplus (d : Dialect) (length : Nat) (record : α) : Except Fault α :=
  match d with
  | .jsonText => .error .malformed
  | .jsonTree => .error (.mismatch (.wrongLength length "fewer elements in array"))
  | .toml => .ok record

/-- Read the fields that are left from the items that are left; `index` is the number of fields
before them and `length` the length of the whole list. -/
def readItems (s : Shape α) (d : Dialect) (cut : Option Fault) (length : Nat) :
    Nat → List (FieldRule α) → List Node → α → Except Fault α
  | _, [], _ :: _, record => surplus d length record
  | _, [], [], record =>
    match cut with
    | some fault => .error fault
    | none => .ok record
  | index, rule :: rules, [], record =>
    match cut with
    | some fault => .error fault
    | none =>
      if rule.presence = .defaulted then readItems s d cut length (index + 1) rules [] record
      else .error (.mismatch (.wrongLength index s.wantedItems))
  | index, rule :: rules, n :: items, record =>
    match rule.read d n record with
    | .error fault => .error fault
    | .ok record => readItems s d cut length (index + 1) rules items record

/-- Read a record, from a table or from a list of its fields. A date counts as a table that holds
nothing known. -/
def read (s : Shape α) : Reader α := fun d n =>
  match n with
  | .table entries cut => s.readTable d entries cut
  | .list items cut => s.readItems d cut items.length 0 s.rules items s.initial
  | .date => s.readTable d [] none
  | n => .error (n.unexpected s.wanted)

end Shape

end RecordBean.Document
