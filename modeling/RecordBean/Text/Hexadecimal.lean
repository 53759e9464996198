import RecordBean.Decimal.Literal

/-! # Hexadecimal digits

Digits in either case, and characters that are given by the digits of their code point.
-/

namespace RecordBean.Text
open RecordBean.Decimal

def hexValue? (c : Char) : Option Nat :=
  if c.isDigit then some (digitValue c)
  else if 'a' ≤ c ∧ c ≤ 'f' then some (c.toNat - 'a'.toNat + 10)
  else if 'A' ≤ c ∧ c ≤ 'F' then some (c.toNat - 'A'.toNat + 10)
  else none

/-- The number that a string of hexadecimal digits stands for. -/
def natOfHex? (digits : List Char) : Option Nat :=
  digits.foldlM (fun n c => (hexValue? c).map (16 * n + ·)) 0

/-- Whether a code point is a character and not a surrogate. -/
def isScalar (code : Nat) : Bool :=
  decide (code < 0xD800) || (decide (0xDFFF < code) && decide (code < 0x110000))

/-- The character whose code point has the given digits. -/
def charOfHex? (digits : List Char) : Option Char := do
  let code ← natOfHex? digits
  if isScalar code then some (Char.ofNat code) else none

/-- A character given by exactly `count` hexadecimal digits, and what follows them. -/
def codeChar? (count : Nat) (cs : List Char) : Option (Char × List Char) := do
  let digits := cs.take count
  if digits.length < count then none
  return (← charOfHex? digits, cs.drop count)

end RecordBean.Text
