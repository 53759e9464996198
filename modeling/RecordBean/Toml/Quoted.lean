import RecordBean.Text.Hexadecimal

/-! # TOML strings

The four forms of strings: basic and literal, each on one line or on several. Every reader gets the
characters behind the opening quotes and gives back the text and what follows the closing ones.
-/

namespace RecordBean.Toml.Quoted
open RecordBean.Text

/-- The blanks within a line. -/
def isSpace (c : Char) : Bool := c == ' ' || c == '\t'

/-- What can stand for itself in a string or a comment: anything but control characters, of which
the tab is an exception. -/
def isPlain (c : Char) : Bool := c == '\t' || (decide (32 ≤ c.toNat) && decide (c.toNat ≠ 127))

/-- What follows a line break. -/
def lineBreak? : List Char → Option (List Char)
  | '\n' :: rest => some rest
  | '\r' :: '\n' :: rest => some rest
  | _ => none

/-- The character of an escape, behind its backslash. -/
def escapedChar? : List Char → Option (Char × List Char)
  | [] => none
  | c :: rest =>
    match c with
    | 'b' => some ('\x08', rest)
    | 't' => some ('\t', rest)
    | 'n' => some ('\n', rest)
    | 'f' => some ('\x0c', rest)
    | 'r' => some ('\r', rest)
    | 'e' => some ('\x1b', rest)
    | '"' => some ('"', rest)
    | '\\' => some ('\\', rest)
    | 'x' => codeChar? 2 rest
    | 'u' => codeChar? 4 rest
    | 'U' => codeChar? 8 rest
    | _ => none

/-- A text and what follows it. -/
abbrev Read := Option (List Char × List Char)

/-- Put a character in front of the text. -/
def Read.cons (c : Char) (r : Read) : Read := r.map fun (text, rest) => (c :: text, rest)

/-! ## One line -/

/-- A basic string. Every step takes a character. -/
def readBasic : (steps : Nat) → List Char → Read
  | 0, _ => none
  | _ + 1, [] => none
  | steps + 1, c :: rest =>
    if c = '"' then some ([], rest)
    else if c = '\\' then
      match escapedChar? rest with
      | some (e, rest) => (readBasic steps rest).cons e
      | none => none
    else if isPlain c then (readBasic steps rest).cons c
    else none

def readLiteral : List Char → Read
  | [] => none
  | c :: rest =>
    if c = '\'' then some ([], rest)
    else if isPlain c then (readLiteral rest).cons c
    else none

/-! ## Several lines -/

/-- Three closing quotes, of which up to two more in front belong to the text. -/
def closing? (quote : Char) (cs : List Char) : Read :=
  let run := (cs.take 5).takeWhile (· == quote)
  if 3 ≤ run.length then some (run.drop 3, cs.drop run.length) else none

/-- A line break directly behind the opening quotes is no part of the text. -/
def skipFirstBreak (cs : List Char) : List Char := (lineBreak? cs).getD cs

/-- All blanks and line breaks are skipped. -/
def skipBlankLines : List Char → List Char
  | ' ' :: rest => skipBlankLines rest
  | '\t' :: rest => skipBlankLines rest
  | '\n' :: rest => skipBlankLines rest
  | '\r' :: '\n' :: rest => skipBlankLines rest
  | cs => cs

/-- Behind a backslash at the end of a line the text goes on at the next character that shows. -/
def continuation? (cs : List Char) : Option (List Char) :=
  (lineBreak? (cs.dropWhile isSpace)).map skipBlankLines

def readLongBasic : (steps : Nat) → List Char → Read
  | 0, _ => none
  | steps + 1, cs =>
    match closing? '"' cs with
    | some done => some done
    | none =>
      match cs with
      | [] => none
      | '\n' :: rest => (readLongBasic steps rest).cons '\n'
      | '\r' :: '\n' :: rest => ((readLongBasic steps rest).cons '\n').cons '\r'
      | '\\' :: rest =>
        match continuation? rest with
        | some rest => readLongBasic steps rest
        | none =>
          match escapedChar? rest with
          | some (e, rest) => (readLongBasic steps rest).cons e
          | none => none
      | c :: rest => if isPlain c then (readLongBasic steps rest).cons c else none

def readLongLiteral : (steps : Nat) → List Char → Read
  | 0, _ => none
  | steps + 1, cs =>
    match closing? '\'' cs with
    | some done => some done
    | none =>
      match cs with
      | [] => none
      | '\n' :: rest => (readLongLiteral steps rest).cons '\n'
      | '\r' :: '\n' :: rest => ((readLongLiteral steps rest).cons '\n').cons '\r'
      | c :: rest => if isPlain c then (readLongLiteral steps rest).cons c else none

/-- A string of any form, from its first quote on. -/
def readAny? (cs : List Char) : Read :=
  match cs with
  | '"' :: '"' :: '"' :: rest => readLongBasic (rest.length + 1) (skipFirstBreak rest)
  | '\'' :: '\'' :: '\'' :: rest => readLongLiteral (rest.length + 1) (skipFirstBreak rest)
  | '"' :: rest => readBasic (rest.length + 1) rest
  | '\'' :: rest => readLiteral rest
  | _ => none

end RecordBean.Toml.Quoted
