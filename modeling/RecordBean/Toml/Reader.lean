import RecordBean.Document.Shape
import RecordBean.Toml.Quoted
import RecordBean.Toml.Scalar
import RecordBean.Toml.Table

/-! # Reading TOML

Documents of version 1.1. A document is read as a whole before anything is decoded, so that a fault
anywhere in its text comes before every fault of its data.
-/

namespace RecordBean.Toml
open RecordBean.Document RecordBean.Toml.Quoted

/-- How many arrays and inline tables may stand in each other, and how many parts a key may have. -/
def depthLimit : Nat := 80

def skipSpace (cs : List Char) : List Char := cs.dropWhile isSpace

/-! ## Between values -/

/-- Blanks, line breaks and comments inside brackets. -/
def skipTrivia (inComment : Bool) : List Char → Option (List Char)
  | [] => some []
  | '\n' :: rest => skipTrivia false rest
  | '\r' :: '\n' :: rest => skipTrivia false rest
  | c :: rest =>
    if inComment then (if isPlain c then skipTrivia true rest else none)
    else if isSpace c then skipTrivia false rest
    else if c = '#' then skipTrivia true rest
    else some (c :: rest)

/-- A comment, up to the end of its line. -/
def skipComment : List Char → Option (List Char)
  | [] => some []
  | c :: rest =>
    match lineBreak? (c :: rest) with
    | some _ => some (c :: rest)
    | none => if isPlain c then skipComment rest else none

/-- The end of a line, behind blanks and a comment. -/
def lineEnd? (cs : List Char) : Option (List Char) := do
  let cs ← match skipSpace cs with
    | '#' :: rest => skipComment rest
    | cs => some cs
  match cs with
  | [] => some []
  | cs => lineBreak? cs

/-! ## Keys -/

/-- What a key without quotes consists of. -/
def isBareKeyChar (c : Char) : Bool := c.isAlphanum || c == '-' || c == '_'

def readKeyPart (cs : List Char) : Option (String × List Char) :=
  match cs with
  | '"' :: rest => (readBasic (rest.length + 1) rest).map fun (text, rest) =>
      (String.ofList text, rest)
  | '\'' :: rest => (readLiteral rest).map fun (text, rest) => (String.ofList text, rest)
  | cs =>
    let part := cs.takeWhile isBareKeyChar
    if part.isEmpty then none else some (String.ofList part, cs.dropWhile isBareKeyChar)

/-- The parts of a key in reverse order; `before` holds those already read. Every step takes a
character. -/
def readKeyParts (before : List String) :
    (steps : Nat) → List Char → Option (List String × List Char)
  | 0, _ => none
  | steps + 1, cs => do
    let (part, cs) ← readKeyPart cs
    match skipSpace cs with
    | '.' :: rest => readKeyParts (part :: before) steps (skipSpace rest)
    | cs => some (part :: before, cs)

/-- A key: its path, its last part, and what follows it and the blanks behind it. -/
def readKey (cs : List Char) : Option (List String × String × List Char) := do
  let (parts, cs) ← readKeyParts [] (cs.length + 1) cs
  match parts with
  | [] => none
  | last :: path =>
    if parts.length ≤ depthLimit then some (path.reverse, last, cs) else none

/-- The value part of an entry, behind its equals sign. -/
def afterEquals? (cs : List Char) : Option (List Char) :=
  match cs with
  | '=' :: rest => some (skipSpace rest)
  | _ => none

/-- The value part of an entry inside braces, where lines can break around the equals sign. -/
def afterInlineEquals? (cs : List Char) : Option (List Char) :=
  match skipTrivia false cs with
  | some ('=' :: rest) => skipTrivia false rest
  | _ => none

/-! ## Values -/

mutual

/-- A value, inside at most `depth` further brackets. Every character allows for two steps. -/
def readValue : (steps : Nat) → (depth : Nat) → List Char → Option (Node × List Char)
  | 0, _, _ => none
  | steps + 1, depth, cs =>
    match cs with
    | [] => none
    | c :: rest =>
      if c = '"' ∨ c = '\'' then
        (readAny? (c :: rest)).map fun (text, rest) => (.text (String.ofList text), rest)
      else if c = '[' then
        match depth with
        | 0 => none
        | depth + 1 => (readItems steps depth rest).map fun (items, rest) =>
          (.list items none, rest)
      else if c = '\x7b' then
        match depth with
        | 0 => none
        | depth + 1 => (readInline steps depth [] rest).map fun (entries, rest) =>
          (tableNode (entryNodes entries), rest)
      else Scalar.read? (c :: rest)

/-- The items of an array up to its closing bracket; a comma may stand behind the last one. -/
def readItems : (steps : Nat) → (depth : Nat) → List Char → Option (List Node × List Char)
  | 0, _, _ => none
  | steps + 1, depth, cs =>
    match skipTrivia false cs with
    | none => none
    | some (']' :: rest) => some ([], rest)
    | some cs =>
      match readValue steps depth cs with
      | none => none
      | some (item, cs) =>
        match skipTrivia false cs with
        | some (',' :: rest) => (readItems steps depth rest).map fun (items, rest) =>
          (item :: items, rest)
        | some (']' :: rest) => some ([item], rest)
        | _ => none

/-- The entries of an inline table up to its closing brace, added to those already read; a comma may
stand behind the last one. -/
def readInline : (steps : Nat) → (depth : Nat) → Entries → List Char →
    Option (Entries × List Char)
  | 0, _, _, _ => none
  | steps + 1, depth, entries, cs =>
    match skipTrivia false cs with
    | none => none
    | some ('\x7d' :: rest) => some (entries, rest)
    | some cs =>
      match readKey cs with
      | none => none
      | some (path, key, cs) =>
        match (afterInlineEquals? cs).bind (readValue steps depth) with
        | none => none
        | some (n, cs) =>
          match entries.addValue path key n .header with
          | none => none
          | some entries =>
            match skipTrivia false cs with
            | some (',' :: rest) => readInline steps depth entries rest
            | some ('\x7d' :: rest) => some (entries, rest)
            | _ => none

end

/-! ## Documents -/

/-- A document while its lines are read. -/
structure Draft where
  root : Entries
  /-- The path of the table to which entries are added. -/
  current : List String

def Draft.empty : Draft := ⟨[], []⟩

/-- Add an entry to the current table. -/
def Draft.add (d : Draft) (path : List String) (key : String) (n : Node) : Option Draft :=
  (Entries.modify false (Entries.addValue path key n) d.current .header d.root).map fun root =>
    { d with root := root }

/-- A header, behind its opening bracket. -/
def readHeader (d : Draft) (cs : List Char) : Option (Draft × List Char) :=
  match cs with
  | '[' :: cs => do
    let (path, key, cs) ← readKey (skipSpace cs)
    match cs with
    | ']' :: ']' :: rest =>
      let root ← d.root.openElement path key
      return (⟨root, path ++ [key]⟩, rest)
    | _ => none
  | cs => do
    let (path, key, cs) ← readKey (skipSpace cs)
    match cs with
    | ']' :: rest =>
      let root ← d.root.openTable path key
      return (⟨root, path ++ [key]⟩, rest)
    | _ => none

/-- An entry of the current table. -/
def readEntry (d : Draft) (cs : List Char) : Option (Draft × List Char) := do
  let (path, key, cs) ← readKey cs
  let cs ← afterEquals? cs
  let (n, rest) ← readValue (2 * cs.length + 2) depthLimit cs
  let d ← d.add path key n
  return (d, rest)

def readLine (d : Draft) (cs : List Char) : Option (Draft × List Char) :=
  match skipSpace cs with
  | [] => some (d, [])
  | c :: rest =>
    if c = '[' then readHeader d rest
    else if c = '#' ∨ (lineBreak? (c :: rest)).isSome then some (d, c :: rest)
    else readEntry d (c :: rest)

/-- All lines. Every line takes a character. -/
def readLines : (steps : Nat) → Draft → List Char → Option Draft
  | _, d, [] => some d
  | 0, _, _ => none
  | steps + 1, d, cs => do
    let (d, cs) ← readLine d cs
    readLines steps d (← lineEnd? cs)

/-- A byte order mark in front of a document is no part of it. -/
def skipMark (cs : List Char) : List Char :=
  match cs with
  | c :: rest => if c = '\uFEFF' then rest else cs
  | [] => []

/-- The tree of a text, if it is a document. -/
def parse? (text : String) : Option Node :=
  let cs := skipMark text.toList
  (readLines (cs.length + 1) .empty cs).map fun d => tableNode (entryNodes d.root)

def decode {α : Type} (read : Reader α) (text : String) : Except Fault α :=
  match parse? text with
  | none => .error .malformed
  | some n => read .toml n

end RecordBean.Toml
