import RecordBean.Decimal.Literal
import RecordBean.Decimal.Power
import RecordBean.Document.Node
import RecordBean.Text.Hexadecimal

/-! # TOML scalars

Values without quotes: booleans, integers in four radixes, floats, and dates with or without times.
Each is recognised from its whole token.
-/

namespace RecordBean.Toml.Scalar
open RecordBean.Decimal RecordBean.Document RecordBean.Text

/-! ## Digits -/

/-- Digits in groups with single underscores between them; the underscores are dropped. -/
def ungroup? (isDigit : Char → Bool) : List Char → Option (List Char)
  | [] => none
  | [c] => if isDigit c then some [c] else none
  | c :: d :: rest =>
    if isDigit c then
      if d = '_' then (ungroup? isDigit rest).map (c :: ·)
      else (ungroup? isDigit (d :: rest)).map (c :: ·)
    else none

/-- Whether every underscore stands between two digits of some radix; `before` is the character in
front of the text. -/
def isGrouped (before : Char) : List Char → Bool
  | [] => before != '_'
  | c :: rest =>
    let fits := if c = '_' then (hexValue? before).isSome
      else before != '_' || (hexValue? c).isSome
    fits && isGrouped c rest

/-- Grouped decimal digits without a leading zero. -/
def wholeDigits? (cs : List Char) : Option (List Char) := do
  let digits ← ungroup? Char.isDigit cs
  match digits with
  | '0' :: _ :: _ => none
  | _ => some digits

/-- The sign in front of a number. -/
def splitSign (cs : List Char) : Bool × List Char :=
  match cs with
  | '-' :: rest => (true, rest)
  | '+' :: rest => (false, rest)
  | cs => (false, cs)

/-! ## Numbers -/

/-- A number that has no value. The document is well-formed; `sort` is what the number would be. -/
def valueless (m : Mismatch) (sort : String) : Node :=
  .gap ⟨.mismatch m, .mismatch .notAVariant, .mismatch (.contentNotATable sort),
    some (.mismatch m)⟩

/-- The place of an integer that has no value. -/
def integerGap : Node := valueless .integerTooLarge "integer"

/-- An integer, or a gap for one beyond 128 bits. -/
def integerNode (value : Int) : Node :=
  if -(twoTo 127 : Int) ≤ value ∧ value < twoTo 128 then .number (.integer value)
  else integerGap

/-- A float, or a gap for one beyond the range. -/
def floatNode (negative : Bool) (size : Float) : Node :=
  if size.isInf then valueless .floatTooLarge "float"
  else .number (.float (signed negative size))

/-- The number that digits stand for in a radix. -/
def natOfRadix? (radix : Nat) (digits : List Char) : Option Nat :=
  digits.foldlM (fun n c => do
    let d ← hexValue? c
    if d < radix then some (radix * n + d) else none) 0

/-- An integer of another radix, which has no sign. One without digits has no value. -/
def radixNode? (radix : Nat) (cs : List Char) : Option Node :=
  if cs.isEmpty then some integerGap
  else do
    let digits ← ungroup? (fun c => (hexValue? c).isSome) cs
    let value ← natOfRadix? radix digits
    return integerNode value

/-- Characters that make a number a float. -/
def isFloatMark (c : Char) : Bool := c == '.' || c == 'e' || c == 'E'

/-- Whether a text is laid out like a grouped integer: digits without a leading zero, then an
underscore, and no underscore out of place. What stands behind that underscore need not be digits,
as long as it holds no space. -/
def isLaidOutAsInteger (cs : List Char) : Bool :=
  match cs, cs.dropWhile Char.isDigit with
  | first :: _, '_' :: _ =>
    first != '0' && first.isDigit && !cs.any (fun c => c == ' ' || isFloatMark c)
      && isGrouped '0' cs
  | _, _ => false

/-- An integer in decimal digits. One that is laid out well but has other characters among its
digits has no value. -/
def decimalNode? (negative : Bool) (cs : List Char) : Option Node :=
  match wholeDigits? cs with
  | some digits =>
    let size : Int := natOfDigits digits
    some (integerNode (if negative then -size else size))
  | none => if isLaidOutAsInteger cs then some integerGap else none

def integer? (cs : List Char) : Option Node :=
  match cs with
  | '0' :: 'x' :: digits => radixNode? 16 digits
  | '0' :: 'o' :: digits => radixNode? 8 digits
  | '0' :: 'b' :: digits => radixNode? 2 digits
  | cs =>
    let (negative, cs) := splitSign cs
    decimalNode? negative cs

/-- The exponent behind its letter. -/
def exponent? (cs : List Char) : Option Int := do
  let (negative, cs) := splitSign cs
  let digits ← ungroup? Char.isDigit cs
  let size : Int := natOfDigits digits
  return if negative then -size else size

def isExponentLetter (c : Char) : Bool := c == 'e' || c == 'E'

/-- A float without its sign: digits, then a fraction or an exponent or both. -/
def unsignedFloat? (cs : List Char) : Option Float := do
  let mantissa := cs.takeWhile (!isExponentLetter ·)
  let power := cs.dropWhile (!isExponentLetter ·)
  let whole ← wholeDigits? (mantissa.takeWhile (· != '.'))
  let fraction ← match mantissa.dropWhile (· != '.') with
    | [] => some []
    | _ :: digits => ungroup? Char.isDigit digits
  let exponent ← match power with
    | [] => if fraction.isEmpty then none else some 0
    | _ :: digits => exponent? digits
  return nearest (natOfDigits (whole ++ fraction)) (exponent - fraction.length)

def float? (cs : List Char) : Option Node :=
  let (negative, cs) := splitSign cs
  if cs = ['i', 'n', 'f'] then some (.number (.float (signed negative infinity)))
  else if cs = ['n', 'a', 'n'] then some (.number (.float (0 / 0)))
  else (unsignedFloat? cs).map (floatNode negative)

/-! ## Dates and times -/

/-- A number of exactly `count` digits. -/
def fixedNumber? (count : Nat) (cs : List Char) : Option (Nat × List Char) :=
  let digits := cs.take count
  if digits.length = count ∧ digits.all Char.isDigit then
    some (natOfDigits digits, cs.drop count)
  else none

/-- What follows one given character. -/
def after? (c : Char) : List Char → Option (List Char)
  | d :: rest => if d = c then some rest else none
  | [] => none

def isLeapYear (year : Nat) : Bool :=
  year % 4 == 0 && (year % 100 != 0 || year % 400 == 0)

def daysIn (year month : Nat) : Nat :=
  if month = 2 then (if isLeapYear year then 29 else 28)
  else if month = 4 ∨ month = 6 ∨ month = 9 ∨ month = 11 then 30
  else 31

/-- A day of the calendar, and what follows it. -/
def day? (cs : List Char) : Option (List Char) := do
  let (year, cs) ← fixedNumber? 4 cs
  let (month, cs) ← fixedNumber? 2 (← after? '-' cs)
  let (day, cs) ← fixedNumber? 2 (← after? '-' cs)
  if 1 ≤ month ∧ month ≤ 12 ∧ 1 ≤ day ∧ day ≤ daysIn year month then some cs else none

/-- The fraction of a second, if there is one. -/
def fraction? (cs : List Char) : Option (List Char) :=
  match cs with
  | '.' :: rest =>
    if (rest.takeWhile Char.isDigit).isEmpty then none else some (rest.dropWhile Char.isDigit)
  | cs => some cs

/-- The seconds, which can be left out and can be a leap second. -/
def seconds? (cs : List Char) : Option (List Char) :=
  match cs with
  | ':' :: rest => do
    let (second, rest) ← fixedNumber? 2 rest
    if second ≤ 60 then fraction? rest else none
  | cs => some cs

/-- A time of the day, and what follows it. -/
def clock? (cs : List Char) : Option (List Char) := do
  let (hour, cs) ← fixedNumber? 2 cs
  let (minute, cs) ← fixedNumber? 2 (← after? ':' cs)
  if hour ≤ 23 ∧ minute ≤ 59 then seconds? cs else none

/-- The distance from universal time, which can be left out. -/
def offset? (cs : List Char) : Option (List Char) :=
  match cs with
  | [] => some []
  | c :: rest =>
    if c = 'Z' ∨ c = 'z' then some rest
    else if c = '+' ∨ c = '-' then do
      let (hours, rest) ← fixedNumber? 2 rest
      let (minutes, rest) ← fixedNumber? 2 (← after? ':' rest)
      if hours ≤ 23 ∧ minutes ≤ 59 then some rest else none
    else none

/-- What stands between a day and a time. -/
def isDateMark (c : Char) : Bool := c == 'T' || c == 't' || c == ' '

/-- Whether a token is a day, a time of the day, or both. -/
def isDate (cs : List Char) : Bool :=
  match day? cs with
  | some [] => true
  | some (c :: rest) => isDateMark c && ((clock? rest).bind offset?) == some []
  | none => clock? cs == some []

/-! ## Tokens -/

def node? (cs : List Char) : Option Node :=
  if cs = "true".toList then some (.boolean true)
  else if cs = "false".toList then some (.boolean false)
  else if isDate cs then some .date
  else integer? cs <|> float? cs

/-- What can stand in a token: all but blanks, line breaks, brackets and the other marks that end
a value. -/
def isTokenChar (c : Char) : Bool :=
  !(c == '=' || c == ',' || c == '[' || c == ']' || c == '\x7b' || c == '\x7d'
    || c == ' ' || c == '\t' || c == '#' || c == '\r' || c == '\n')

/-- What can begin the part of a token behind blanks: all but the quotes of a string. -/
def continuesToken (c : Char) : Bool := isTokenChar c && c != '"' && c != '\''

/-- The token at the front, and what follows it. Blanks between two parts belong to the token, as
between a day and a time; `blanks` holds those just passed, in reverse order. -/
def splitToken (blanks : List Char) : List Char → List Char × List Char
  | [] => ([], blanks.reverse)
  | c :: rest =>
    if c = ' ' ∨ c = '\t' then
      splitToken (c :: blanks) rest
    else if (if blanks.isEmpty then isTokenChar c else continuesToken c) then
      let (token, left) := splitToken [] rest
      (blanks.reverse ++ c :: token, left)
    else ([], blanks.reverse ++ c :: rest)

/-- The scalar at the front, and what follows it. -/
def read? (cs : List Char) : Option (Node × List Char) :=
  let (token, rest) := splitToken [] cs
  (node? token).map fun n => (n, rest)

end RecordBean.Toml.Scalar
