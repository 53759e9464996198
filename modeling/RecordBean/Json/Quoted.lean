import RecordBean.Document.Node
import RecordBean.Text.Hexadecimal

/-! # JSON strings

Writing a text as a JSON string, and reading one. A string can be read for its text or passed over;
passing over does not look at what the escapes stand for, so that a lone surrogate is a fault only
for a reader that wants the text.
-/

namespace RecordBean.Json.Quoted
open RecordBean.Document RecordBean.Text

/-! ## Writing -/

/-- A control character by its code, as four hexadecimal digits. -/
def controlEscape (c : Char) : List Char :=
  ['\\', 'u', '0', '0', Nat.digitChar (c.toNat / 16), Nat.digitChar (c.toNat % 16)]

/-- One character of a string. Controls, quotes and backslashes are escaped and nothing else. -/
def encodeChar (c : Char) : List Char :=
  if c = '"' then ['\\', '"']
  else if c = '\\' then ['\\', '\\']
  else if c = '\x08' then ['\\', 'b']
  else if c = '\x0c' then ['\\', 'f']
  else if c = '\n' then ['\\', 'n']
  else if c = '\r' then ['\\', 'r']
  else if c = '\t' then ['\\', 't']
  else if c.toNat < 32 then controlEscape c
  else [c]

def encode (s : String) : List Char := '"' :: s.toList.flatMap encodeChar ++ ['"']

/-! ## Reading -/

/-- The four hexadecimal digits of an escape, and what follows them. With less than four bytes left
the text counts as ended. -/
def hexCode (cs : List Char) : Except Fault (Nat × List Char) :=
  match natOfHex? (cs.take 4) with
  | some code =>
    if 4 ≤ cs.length then .ok (code, cs.drop 4) else .error .unfinished
  | none =>
    if (String.ofList cs).utf8ByteSize < 4 then .error .unfinished else .error .malformed

def isLead (code : Nat) : Bool := decide (0xD800 ≤ code) && decide (code ≤ 0xDBFF)

def isTrail (code : Nat) : Bool := decide (0xDC00 ≤ code) && decide (code ≤ 0xDFFF)

/-- The character of a pair of surrogates. -/
def pairChar (lead trail : Nat) : Char :=
  Char.ofNat ((lead - 0xD800) * 0x400 + (trail - 0xDC00) + 0x10000)

/-- The escape of the trailing surrogate, which has to follow a leading one. -/
def trailCode (cs : List Char) : Except Fault (Nat × List Char) :=
  match cs with
  | [] => .error .unfinished
  | ['\\'] => .error .unfinished
  | '\\' :: 'u' :: rest =>
    match hexCode rest with
    | .error fault => .error fault
    | .ok (code, rest) => if isTrail code then .ok (code, rest) else .error .malformed
  | _ => .error .malformed

/-- The character of a code escape; surrogates have to come in pairs. -/
def codeChar (cs : List Char) : Except Fault (Char × List Char) :=
  match hexCode cs with
  | .error fault => .error fault
  | .ok (code, rest) =>
    if isTrail code then .error .malformed
    else if isLead code then (trailCode rest).map fun (trail, rest) => (pairChar code trail, rest)
    else .ok (Char.ofNat code, rest)

/-- The character of an escape with a letter. -/
def letterChar? (c : Char) : Option Char :=
  match c with
  | '"' => some '"'
  | '\\' => some '\\'
  | '/' => some '/'
  | 'b' => some '\x08'
  | 'f' => some '\x0c'
  | 'n' => some '\n'
  | 'r' => some '\r'
  | 't' => some '\t'
  | _ => none

/-- The character of an escape, behind its backslash. -/
def escapedChar (cs : List Char) : Except Fault (Char × List Char) :=
  match cs with
  | [] => .error .unfinished
  | 'u' :: rest => codeChar rest
  | c :: rest =>
    match letterChar? c with
    | some e => .ok (e, rest)
    | none => .error .malformed

/-- Pass over an escape, behind its backslash. -/
def skipEscape (cs : List Char) : Except Fault (List Char) :=
  match cs with
  | [] => .error .unfinished
  | 'u' :: rest => (hexCode rest).map (·.2)
  | c :: rest => if (letterChar? c).isSome then .ok rest else .error .malformed

/-- The text up to the closing quote, and what follows the quote. Every step takes a character, so
that the length of the input bounds the number of steps. -/
def decode : (steps : Nat) → List Char → Except Fault (List Char × List Char)
  | 0, _ => .error .unfinished
  | _ + 1, [] => .error .unfinished
  | steps + 1, c :: rest =>
    if c = '"' then .ok ([], rest)
    else if c = '\\' then
      match escapedChar rest with
      | .error fault => .error fault
      | .ok (e, rest) => (decode steps rest).map fun (body, rest) => (e :: body, rest)
    else if c.toNat < 32 then .error .malformed
    else (decode steps rest).map fun (body, rest) => (c :: body, rest)

/-- Pass over everything up to the closing quote. -/
def skip : (steps : Nat) → List Char → Except Fault (List Char)
  | 0, _ => .error .unfinished
  | _ + 1, [] => .error .unfinished
  | steps + 1, c :: rest =>
    if c = '"' then .ok rest
    else if c = '\\' then
      match skipEscape rest with
      | .error fault => .error fault
      | .ok rest => skip steps rest
    else if c.toNat < 32 then .error .malformed
    else skip steps rest

end RecordBean.Json.Quoted
