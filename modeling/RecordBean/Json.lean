import RecordBean.Document.Node

/-! # JSON values

JSON as data: built by the encoders, written by the writer, and given to decoding as a document
tree.
-/

namespace RecordBean
open RecordBean.Document

/-- A JSON value. An object keeps its members in the order in which they are written. -/
inductive Json where
  | null
  | boolean (value : Bool)
  | number (value : Numeral)
  | text (value : String)
  | list (items : List Json)
  | object (members : List (String × Json))

namespace Json

def ofNat (n : Nat) : Json := .number (.integer n)

/-- Null stands for nothing. -/
def ofOption {α : Type} (encode : α → Json) : Option α → Json
  | some value => encode value
  | none => .null

def ofList {α : Type} (encode : α → Json) (values : List α) : Json := .list (values.map encode)

def ofTexts (texts : List String) : Json := ofList .text texts

/-- The value of a member; of several members with one name it is the first. -/
def get? (name : String) : Json → Option Json
  | .object members => members.lookup name
  | _ => none

/-- Put a member in front of the first one with a larger name. -/
def insertMember {α : Type} (entry : String × α) : List (String × α) → List (String × α)
  | [] => [entry]
  | e :: rest => if entry.1 < e.1 then entry :: e :: rest else e :: insertMember entry rest

/-- Members in the order of their names. -/
def sortMembers {α : Type} (members : List (String × α)) : List (String × α) :=
  members.foldr insertMember []

/-- Replace every key of a table by one that could be read. -/
def namedEntries (entries : List (String × Node)) : List (Key × Node) :=
  entries.map fun (name, n) => (.name name, n)

mutual

/-- The tree that decoding gets to see. The members of an object are decoded in the order of their
names. -/
def node : Json → Node
  | .null => .null
  | .boolean value => .boolean value
  | .number value => .number value
  | .text value => .text value
  | .list items => .list (nodes items) none
  | .object members => .table (namedEntries (sortMembers (entryNodes members))) none

def nodes : List Json → List Node
  | [] => []
  | j :: rest => j.node :: nodes rest

def entryNodes : List (String × Json) → List (String × Node)
  | [] => []
  | (name, j) :: rest => (name, j.node) :: entryNodes rest

end

end Json

namespace Document

mutual

/-- The JSON value of a tree, if the tree has no faults. -/
def Node.json? : Node → Option Json
  | .null => some .null
  | .boolean value => some (.boolean value)
  | .number value => some (.number value)
  | .text value => some (.text value)
  | .list items none => (jsonItems? items).map .list
  | .table entries none => (jsonMembers? entries).map .object
  | _ => none

def jsonItems? : List Node → Option (List Json)
  | [] => some []
  | n :: rest => do return (← n.json?) :: (← jsonItems? rest)

def jsonMembers? : List (Key × Node) → Option (List (String × Json))
  | [] => some []
  | (.name name, n) :: rest => do return (name, ← n.json?) :: (← jsonMembers? rest)
  | (.gap .., _) :: _ => none

end

end Document

end RecordBean
