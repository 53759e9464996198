import RecordBean.Log.Pattern
import RecordBean.Text.Blank
import RecordBean.Text.Hexadecimal
import RecordBean.Text.Numeric

/-! # Reading patterns

From text to patterns: groups, alternatives, repetitions, sets and escapes. Properties of
characters, back references and looking around are refused, and so are counted repetitions, whose
braces a filter cannot hold. While the flag for it is set, blanks and comments between the parts of
a pattern are passed over; `spaced` tells whether it is.
-/

namespace RecordBean.Log.Pattern
open RecordBean.Text

/-! ## Blanks -/

/-- What follows blanks and comments, which reach to the end of their lines. -/
def passBlanks (inComment : Bool) : List Char → List Char
  | [] => []
  | c :: rest =>
    if inComment then passBlanks (c != '\n') rest
    else if isBlank c then passBlanks false rest
    else if c = '#' then passBlanks true rest
    else c :: rest

def skipBlanks (spaced : Bool) (cs : List Char) : List Char :=
  if spaced then passBlanks false cs else cs

/-- The next character that is no blank, for looking ahead. A mark of a comment is passed over, but
the comment is not. -/
def peekBehindBlanks (spaced : Bool) (cs : List Char) : Option Char :=
  if spaced then
    match cs.dropWhile isBlank with
    | '#' :: rest => (rest.dropWhile isBlank).head?
    | rest => rest.head?
  else cs.head?

/-! ## Escapes -/

/-- What a single character or an escape stands for. -/
inductive Atom where
  | char (c : PatternChar)
  | edge
  | wordEdge
  | shorthand (negated : Bool)
deriving DecidableEq, Repr

def Atom.pattern : Atom → Pattern
  | .char c => .char c
  | .edge => .edge
  | .wordEdge => .wordEdge
  | .shorthand negated => .shorthand negated

/-- A set holds no places. -/
def Atom.setPart? : Atom → Option SetPart
  | .char c => some (.char c)
  | .shorthand negated => some (.shorthand negated)
  | .edge | .wordEdge => none

/-- A character that stands for itself. -/
def Atom.ofChar (c : Char) : Atom := .char ⟨c, false⟩

/-- Whether a backslash in front of a character only takes away its meaning. -/
def isEscapable (c : Char) : Bool := decide (c.toNat < 128) && !c.isAlphanum && c != '<' && c != '>'

/-- Exactly `count` hexadecimal digits. -/
def readDigits? (spaced : Bool) : (count : Nat) → List Char → Option (List Char × List Char)
  | 0, cs => some ([], cs)
  | count + 1, cs =>
    match skipBlanks spaced cs with
    | [] => none
    | c :: rest =>
      if (hexValue? c).isSome then
        (readDigits? spaced count rest).map fun (digits, rest) => (c :: digits, rest)
      else none

/-- A character given by its code point. -/
def readCode? (spaced asByte : Bool) (count : Nat) (cs : List Char) :
    Option (Atom × List Char) := do
  let (digits, cs) ← readDigits? spaced count cs
  return (.char ⟨← charOfHex? digits, asByte⟩, cs)

/-- An escape, behind its backslash. -/
def readEscape? (spaced : Bool) : List Char → Option (Atom × List Char)
  | [] => none
  | c :: rest =>
    match c with
    | 'x' => readCode? spaced true 2 rest
    | 'u' => readCode? spaced false 4 rest
    | 'U' => readCode? spaced false 8 rest
    | 'd' | 's' | 'w' => some (.shorthand false, rest)
    | 'D' | 'S' | 'W' => some (.shorthand true, rest)
    | 'a' => some (.ofChar '\x07', rest)
    | 'f' => some (.ofChar '\x0c', rest)
    | 't' => some (.ofChar '\t', rest)
    | 'n' => some (.ofChar '\n', rest)
    | 'r' => some (.ofChar '\r', rest)
    | 'v' => some (.ofChar '\x0b', rest)
    | 'A' | 'z' => some (.edge, rest)
    | 'b' | 'B' | '<' | '>' => some (.wordEdge, rest)
    | c => if isEscapable c then some (.ofChar c, rest) else none

/-! ## Sets of characters -/

def setNames : List String :=
  ["alnum", "alpha", "ascii", "blank", "cntrl", "digit", "graph", "lower", "print", "punct",
    "space", "upper", "word", "xdigit"]

/-- A set given by its name between colons, behind the opening bracket. -/
def readNamed? (cs : List Char) : Option (SetPart × List Char) :=
  match cs with
  | ':' :: cs =>
    let (negated, cs) := match cs with
      | '^' :: rest => (true, rest)
      | cs => (false, cs)
    match cs.dropWhile (· != ':') with
    | ':' :: ']' :: rest =>
      if setNames.contains (String.ofList (cs.takeWhile (· != ':'))) then
        some (.named negated, rest)
      else none
    | _ => none
  | _ => none

/-- The hyphens at the begin of a set, which stand for themselves. -/
def readHyphens (spaced inComment : Bool) : List Char → List SetPart × List Char
  | [] => ([], [])
  | c :: rest =>
    if inComment then readHyphens spaced (c != '\n') rest
    else if spaced && isBlank c then readHyphens spaced false rest
    else if spaced && c == '#' then readHyphens spaced true rest
    else if c = '-' then
      let (parts, rest) := readHyphens spaced false rest
      (.char ⟨'-', false⟩ :: parts, rest)
    else ([], c :: rest)

/-- The begin of a set, behind its opening bracket: whether it is negated, and the hyphens or the
closing bracket that stand for themselves there. -/
def readSetBegin (spaced : Bool) (cs : List Char) : Bool × List SetPart × List Char :=
  let (negated, cs) := match skipBlanks spaced cs with
    | '^' :: rest => (true, rest)
    | cs => (false, cs)
  match readHyphens spaced false cs with
  | ([], ']' :: rest) => (negated, [.char ⟨']', false⟩], rest)
  | (parts, rest) => (negated, parts, rest)

/-- One end of a range, or a part of its own. -/
def readAtom? (spaced : Bool) : List Char → Option (Atom × List Char)
  | [] => none
  | '\\' :: rest => readEscape? spaced rest
  | c :: rest => some (.ofChar c, rest)

/-- A range, whose ends are characters in order. -/
def rangeOf? : Atom → Atom → Option SetPart
  | .char low, .char high => if low.char ≤ high.char then some (.range low high) else none
  | _, _ => none

/-- One part of a set. A hyphen in front of another one or of a closing bracket makes no range. -/
def readSetPart? (spaced : Bool) (cs : List Char) : Option (SetPart × List Char) := do
  let (low, cs) ← readAtom? spaced cs
  match skipBlanks spaced cs with
  | '-' :: rest =>
    let next := peekBehindBlanks spaced rest
    if next = some ']' ∨ next = some '-' then return (← low.setPart?, '-' :: rest)
    else
      let (high, rest) ← readAtom? spaced (skipBlanks spaced rest)
      return (← rangeOf? low high, rest)
  | cs => return (← low.setPart?, cs)

/-- The unions of a set up to its closing bracket; `before` holds those already read, and `parts`
the parts of the present one, both in reverse order. Every step takes a character. -/
def readUnions? (spaced : Bool) : (steps : Nat) → (before : List (List SetPart)) →
    (parts : List SetPart) → List Char → Option (List (List SetPart) × List Char)
  | 0, _, _, _ => none
  | steps + 1, before, parts, cs =>
    match skipBlanks spaced cs with
    | [] => none
    | ']' :: rest => some ((parts.reverse :: before).reverse, rest)
    | '[' :: rest =>
      match readNamed? rest with
      | some (part, rest) => readUnions? spaced steps before (part :: parts) rest
      | none =>
        let (negated, begun, rest) := readSetBegin spaced rest
        match readUnions? spaced steps [] begun rest with
        | none => none
        | some (unions, rest) =>
          readUnions? spaced steps before (.nested negated unions :: parts) rest
    | '&' :: '&' :: rest => readUnions? spaced steps (parts.reverse :: before) [] rest
    | '-' :: '-' :: rest => readUnions? spaced steps (parts.reverse :: before) [] rest
    | '~' :: '~' :: rest => readUnions? spaced steps (parts.reverse :: before) [] rest
    | cs =>
      match readSetPart? spaced cs with
      | none => none
      | some (part, rest) => readUnions? spaced steps before (part :: parts) rest

/-- A set, behind its opening bracket. -/
def readSet? (spaced : Bool) (cs : List Char) : Option (Pattern × List Char) :=
  let (negated, begun, cs) := readSetBegin spaced cs
  (readUnions? spaced (cs.length + 1) [] begun cs).map fun (unions, rest) =>
    (.set negated unions, rest)

/-! ## Groups -/

/-- What letters do to a flag. The letters behind a hyphen clear their flags. -/
def flagState (letters : List Char) (flag : Char) : Option Bool :=
  if (letters.takeWhile (· != '-')).contains flag then some true
  else if letters.contains flag then some false
  else none

/-- The flags that letters set and clear. Every letter and the hyphen can stand once, and a letter
has to follow the hyphen. -/
def flagChange? (letters : List Char) : Option FlagChange :=
  if letters.all (['i', 'm', 's', 'U', 'u', 'R', 'x', '-'].contains ·)
      && letters.eraseDups.length == letters.length && letters.getLast? != some '-' then
    some ⟨flagState letters 'i', flagState letters 'u', flagState letters 'x'⟩
  else none

/-- Whether a group can have a name. -/
def isGroupName (name : List Char) : Bool :=
  match name with
  | [] => false
  | first :: rest =>
    (first == '_' || isAlphabetic first)
      && rest.all fun c => c == '_' || c == '.' || c == '[' || c == ']' || isAlphanumeric c

/-- What an opening parenthesis begins. -/
inductive Opening where
  | plain (c : FlagChange)
  | named (name : List Char)
  /-- No group, but other flags for what follows. -/
  | flags (c : FlagChange)
deriving DecidableEq, Repr

def noChange : FlagChange := ⟨none, none, none⟩

/-- The name of a group, behind its opening mark. -/
def readName? (cs : List Char) : Option (Opening × List Char) :=
  let name := cs.takeWhile (· != '>')
  match cs.dropWhile (· != '>') with
  | [] => none
  | _ :: rest => if isGroupName name then some (.named name, rest) else none

/-- What stands behind an opening parenthesis, and what follows it. -/
def readOpening? : List Char → Option (Opening × List Char)
  | '?' :: 'P' :: '<' :: rest => readName? rest
  | '?' :: '<' :: rest => readName? rest
  | '?' :: rest =>
    let letters := rest.takeWhile fun c => c != ':' && c != ')'
    match rest.dropWhile fun c => c != ':' && c != ')' with
    | [] => none
    | mark :: rest => do
      let c ← flagChange? letters
      if mark = ':' then some (.plain c, rest)
      else if letters.isEmpty then none
      else some (.flags c, rest)
  | rest => some (.plain noChange, rest)

/-! ## Patterns -/

/-- The mark that makes a repetition prefer less. -/
def skipLazyMark : List Char → List Char
  | '?' :: rest => rest
  | cs => cs

/-- Repeat the last one of some patterns, which come in reverse order. -/
def repeatLast? : List Pattern → Option (List Pattern)
  | [] => none
  | .change _ :: _ => none
  | p :: ps => some (.repeated p :: ps)

/-- A reading up to a closing parenthesis or the end. -/
structure Reading where
  pattern : Pattern
  /-- The names of all groups so far. -/
  names : List (List Char)
  rest : List Char

/-- Read a pattern up to a closing parenthesis or the end. `branches` holds the alternatives already
read, and `items` the parts of the present one, both in reverse order. Every step takes a
character. -/
def read? : (steps : Nat) → (spaced : Bool) → (names : List (List Char)) →
    (branches items : List Pattern) → List Char → Option Reading
  | 0, _, _, _, _, _ => none
  | steps + 1, spaced, names, branches, items, cs =>
    let branch := inSequence items.reverse
    match skipBlanks spaced cs with
    | [] => some ⟨oneOf (branch :: branches).reverse, names, []⟩
    | c :: rest =>
      if c = ')' then some ⟨oneOf (branch :: branches).reverse, names, c :: rest⟩
      else if c = '|' then read? steps spaced names (branch :: branches) [] rest
      else if c = '(' then
        match readOpening? (skipBlanks spaced rest) with
        | none => none
        | some (.flags c, rest) =>
          read? steps (c.spaced.getD spaced) names branches (.change c :: items) rest
        | some (.plain c, rest) =>
          match read? steps (c.spaced.getD spaced) names [] [] rest with
          | some ⟨inner, names, _ :: rest⟩ =>
            read? steps spaced names branches (.group c inner :: items) rest
          | _ => none
        | some (.named name, rest) =>
          if names.contains name then none
          else
            match read? steps spaced (name :: names) [] [] rest with
            | some ⟨inner, names, _ :: rest⟩ =>
              read? steps spaced names branches (.group noChange inner :: items) rest
            | _ => none
      else if c = '*' ∨ c = '+' ∨ c = '?' then
        match repeatLast? items with
        | none => none
        | some items => read? steps spaced names branches items (skipLazyMark rest)
      else if c = '\x7b' then none
      else if c = '[' then
        match readSet? spaced rest with
        | none => none
        | some (p, rest) => read? steps spaced names branches (p :: items) rest
      else if c = '\\' then
        match readEscape? spaced rest with
        | none => none
        | some (a, rest) => read? steps spaced names branches (a.pattern :: items) rest
      else if c = '.' then read? steps spaced names branches (.anyChar :: items) rest
      else if c = '^' ∨ c = '$' then read? steps spaced names branches (.edge :: items) rest
      else read? steps spaced names branches ((Atom.ofChar c).pattern :: items) rest

def ofChars? (cs : List Char) : Option Pattern :=
  match read? (cs.length + 1) false [] [] [] cs with
  | some ⟨p, _, []⟩ => some p
  | _ => none

/-! ## Values -/

/-- Whether a text is a number in decimal digits. -/
def isDecimal (cs : List Char) : Bool :=
  let isMantissaChar := fun (c : Char) => c.isDigit || c == '.'
  let mantissa := cs.takeWhile isMantissaChar
  let exponent := match cs.dropWhile isMantissaChar with
    | [] => ['0']
    | mark :: sign :: rest =>
      if mark = 'e' ∨ mark = 'E' then (if sign = '+' ∨ sign = '-' then rest else sign :: rest)
      else []
    | _ => []
  mantissa.any Char.isDigit && decide (mantissa.count '.' ≤ 1)
    && !exponent.isEmpty && exponent.all Char.isDigit

/-- Whether a text is a number behind a plus sign. It would be no pattern, since the sign repeats
nothing. -/
def isPositive (cs : List Char) : Bool :=
  match cs with
  | '+' :: cs =>
    ["inf", "infinity", "nan"].contains (String.ofList (cs.map Char.toLower)) || isDecimal cs
  | _ => false

/-- Whether a text can stand for the value of a field: a number or a pattern that can be used. -/
def isValue (cs : List Char) : Bool := isPositive cs || (ofChars? cs).any (·.isUsable)

end RecordBean.Log.Pattern
