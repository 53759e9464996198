import RecordBean.Document.Shape
import RecordBean.Json
import RecordBean.Json.Number
import RecordBean.Json.Quoted

/-! # Reading JSON

A text is read into a document tree as far as it is JSON. A fault in the text becomes a gap or a cut
at the place where it was met; behind it nothing is read. After a comma the tree always has a
further item or entry, even if the text ends there.
-/

namespace RecordBean.Json
open RecordBean.Document

/-- What was read, and the text behind it unless reading stopped. -/
structure Step (α : Type) where
  value : α
  rest : Option (List Char)

namespace Step

/-- A place that is faulty for every reader stops the reading. -/
def stop (fault : Fault) : Step Node := ⟨.gap (.always fault), none⟩

end Step

/-- The white space between tokens. -/
def isSpace (c : Char) : Bool := c == ' ' || c == '\n' || c == '\t' || c == '\r'

def skipSpace (cs : List Char) : List Char := cs.dropWhile isSpace

/-- What follows the letters that are left of a word. -/
def matchWord : List Char → List Char → Except Fault (List Char)
  | [], rest => .ok rest
  | _ :: _, [] => .error .unfinished
  | w :: word, c :: rest => if w = c then matchWord word rest else .error .malformed

/-- A word that stands for a value, from its second letter on. -/
def readWord (word : List Char) (value : Node) (cs : List Char) : Step Node :=
  match matchWord word cs with
  | .ok rest => ⟨value, some rest⟩
  | .error fault => ⟨.gap ⟨fault, .malformed, fault, some fault⟩, none⟩

/-- A number. One beyond the range can be passed over. -/
def readNumber (cs : List Char) : Step Node :=
  match Number.scan cs with
  | .error fault =>
    ⟨.gap ⟨fault.asValue, .malformed, fault.asValue, some fault.asSkipped⟩, none⟩
  | .ok (literal, rest) =>
    match literal.value? with
    | some n => ⟨.number n, some rest⟩
    | none => ⟨.gap ⟨.malformed, .malformed, .malformed, none⟩, some rest⟩

/-- A string behind its opening quote: its text, or the faults for readers and for those who pass
over it. -/
def readQuoted (cs : List Char) : Step (Except (Fault × Option Fault) String) :=
  match Quoted.decode (cs.length + 1) cs with
  | .ok (chars, rest) => ⟨.ok (String.ofList chars), some rest⟩
  | .error fault =>
    match Quoted.skip (cs.length + 1) cs with
    | .ok rest => ⟨.error (fault, none), some rest⟩
    | .error skipped => ⟨.error (fault, some skipped), none⟩

def readTextNode (cs : List Char) : Step Node :=
  let s := readQuoted cs
  match s.value with
  | .ok content => ⟨.text content, s.rest⟩
  | .error (fault, skipped) => ⟨.gap ⟨fault, fault, fault, skipped⟩, s.rest⟩

def readKey (cs : List Char) : Step Key :=
  let s := readQuoted cs
  match s.value with
  | .ok content => ⟨.name content, s.rest⟩
  | .error (fault, skipped) => ⟨.gap ⟨fault, fault, fault, skipped⟩, s.rest⟩

/-- The text behind the colon that has to follow a key. -/
def expectColon (cs : List Char) : Except Fault (List Char) :=
  match skipSpace cs with
  | [] => .error .unfinished
  | c :: rest => if c = ':' then .ok rest else .error .malformed

mutual

/-- A value. Every character allows for two steps, which is more than reading takes. -/
def readValue : (steps : Nat) → List Char → Step Node
  | 0, _ => .stop .malformed
  | steps + 1, cs =>
    match skipSpace cs with
    | [] => .stop .unfinished
    | c :: rest =>
      if c = '"' then readTextNode rest
      else if c = '[' then
        let s : Step (List Node × Option Fault) := match skipSpace rest with
          | ']' :: rest => ⟨([], none), some rest⟩
          | [] => ⟨([], some .unfinished), none⟩
          | rest => readItems steps rest
        ⟨.list s.value.1 s.value.2, s.rest⟩
      else if c = '\x7b' then
        let s : Step (List (Key × Node) × Option Fault) := match skipSpace rest with
          | '\x7d' :: rest => ⟨([], none), some rest⟩
          | rest => readEntries steps rest
        ⟨.table s.value.1 s.value.2, s.rest⟩
      else if c = '-' ∨ c.isDigit then readNumber (c :: rest)
      else if c = 'n' then readWord ['u', 'l', 'l'] .null rest
      else if c = 't' then readWord ['r', 'u', 'e'] (.boolean true) rest
      else if c = 'f' then readWord ['a', 'l', 's', 'e'] (.boolean false) rest
      else .stop .malformed

/-- The items of a list from one that has to be there, and the fault that cuts them off. -/
def readItems : (steps : Nat) → List Char → Step (List Node × Option Fault)
  | 0, _ => ⟨([], some .malformed), none⟩
  | steps + 1, cs =>
    let first := readValue steps cs
    match first.rest with
    | none => ⟨([first.value], none), none⟩
    | some rest =>
      match skipSpace rest with
      | ',' :: rest =>
        let others := readItems steps rest
        ⟨(first.value :: others.value.1, others.value.2), others.rest⟩
      | ']' :: rest => ⟨([first.value], none), some rest⟩
      | [] => ⟨([first.value], some .unfinished), none⟩
      | _ => ⟨([first.value], some .malformed), none⟩

/-- The entries of a table from one that has to be there, and the fault that cuts them off. -/
def readEntries : (steps : Nat) → List Char → Step (List (Key × Node) × Option Fault)
  | 0, _ => ⟨([], some .malformed), none⟩
  | steps + 1, cs =>
    match skipSpace cs with
    | '"' :: rest =>
      let key := readKey rest
      match key.rest with
      | none => ⟨([(key.value, .gap (.always .malformed))], none), none⟩
      | some rest =>
        match expectColon rest with
        | .error fault => ⟨([(key.value, .gap (.always fault))], none), none⟩
        | .ok rest =>
          let first := readValue steps rest
          match first.rest with
          | none => ⟨([(key.value, first.value)], none), none⟩
          | some rest =>
            match skipSpace rest with
            | ',' :: rest =>
              let others := readEntries steps rest
              ⟨((key.value, first.value) :: others.value.1, others.value.2), others.rest⟩
            | '\x7d' :: rest => ⟨([(key.value, first.value)], none), some rest⟩
            | [] => ⟨([(key.value, first.value)], some .unfinished), none⟩
            | _ => ⟨([(key.value, first.value)], some .malformed), none⟩
    | rest =>
      let fault := if rest.isEmpty then Fault.unfinished else .malformed
      ⟨([(.gap (.always fault), .gap (.always fault))], none), none⟩

end

structure Reading where
  root : Node
  /-- Whether anything but white space follows the value. -/
  trailing : Bool

def Reading.of (text : String) : Reading :=
  let cs := text.toList
  let s := readValue (2 * cs.length + 2) cs
  ⟨s.value, s.rest.any fun rest => !(skipSpace rest).isEmpty⟩

/-- Decode a text. What follows the value is a fault only once the value is decoded. -/
def decode {α : Type} (read : Reader α) (text : String) : Except Fault α :=
  let reading := Reading.of text
  match read .jsonText reading.root with
  | .error fault => .error fault
  | .ok value => if reading.trailing then .error .malformed else .ok value

def parse? (text : String) : Option Json :=
  let reading := Reading.of text
  if reading.trailing then none else reading.root.json?

end RecordBean.Json
