import RecordBean.Decimal.Literal
import RecordBean.Decimal.Power
import RecordBean.Document.Node

/-! # JSON numbers

The literal of a number is scanned once; its value follows from its digits. Integers of 64 bits are
exact. All other numbers keep as many leading digits as fit into 64 bits and are scaled by a power
of ten, and a number beyond the range of binary64 has no value.
-/

namespace RecordBean.Json.Number
open RecordBean.Decimal RecordBean.Document

structure Literal where
  negative : Bool
  whole : List Char
  fraction : Option (List Char)
  /-- The sign and the digits of the exponent. -/
  exponent : Option (Bool × List Char)

/-- Why a literal cannot be scanned: faults as a value and when it is skipped. They differ where
the text ends inside the literal. -/
structure ScanFault where
  asValue : Fault
  asSkipped : Fault

def ScanFault.malformed : ScanFault := ⟨.malformed, .malformed⟩

/-- Digits are missing in front of `rest`. -/
def ScanFault.noDigit (rest : List Char) : ScanFault :=
  if rest.isEmpty then ⟨.unfinished, .malformed⟩ else .malformed

/-- The digits before the point; a zero stands alone. -/
def scanWhole (cs : List Char) : Except ScanFault (List Char × List Char) :=
  let digits := cs.takeWhile Char.isDigit
  let rest := cs.dropWhile Char.isDigit
  match digits with
  | [] => .error (.noDigit rest)
  | '0' :: _ :: _ => .error .malformed
  | _ => .ok (digits, rest)

/-- The digits behind the point, if there is one. -/
def scanFraction (cs : List Char) : Except ScanFault (Option (List Char) × List Char) :=
  match cs with
  | '.' :: cs =>
    let digits := cs.takeWhile Char.isDigit
    let rest := cs.dropWhile Char.isDigit
    if digits.isEmpty then .error (.noDigit rest) else .ok (some digits, rest)
  | cs => .ok (none, cs)

/-- The sign in front of the digits of an exponent. -/
def scanSign (cs : List Char) : Bool × List Char :=
  match cs with
  | '-' :: rest => (true, rest)
  | '+' :: rest => (false, rest)
  | cs => (false, cs)

def scanExponent (cs : List Char) : Except ScanFault (Option (Bool × List Char) × List Char) :=
  match cs with
  | c :: cs' =>
    if c = 'e' ∨ c = 'E' then
      let (negative, cs') := scanSign cs'
      let digits := cs'.takeWhile Char.isDigit
      let rest := cs'.dropWhile Char.isDigit
      if digits.isEmpty then .error (.noDigit rest) else .ok (some (negative, digits), rest)
    else .ok (none, cs)
  | [] => .ok (none, cs)

/-- A literal and what follows it. -/
def scan (cs : List Char) : Except ScanFault (Literal × List Char) := do
  let (negative, cs) := match cs with
    | '-' :: rest => (true, rest)
    | cs => (false, cs)
  let (whole, cs) ← scanWhole cs
  let (fraction, cs) ← scanFraction cs
  let (exponent, cs) ← scanExponent cs
  return (⟨negative, whole, fraction, exponent⟩, cs)

/-- Take digits into a significand as long as 64 bits hold it; the digits left over come back. -/
def fill (significand : Nat) : List Char → Nat × List Char
  | [] => (significand, [])
  | c :: rest =>
    let next := 10 * significand + digitValue c
    if next < twoTo 64 then fill next rest else (significand, c :: rest)

/-- The value of a literal, if it is in range. -/
def Literal.value? (l : Literal) : Option Numeral :=
  let exact := natOfDigits l.whole
  let integral := l.fraction.isNone && l.exponent.isNone
  if integral && !l.negative && decide (exact < twoTo 64) then some (.integer exact)
  else if integral && l.negative && decide (0 < exact) && decide (exact ≤ twoTo 63) then
    some (.integer (-(exact : Int)))
  else
    let (significand, left) := fill 0 l.whole
    let fraction := l.fraction.getD []
    let (significand, unread) := fill significand fraction
    let shift : Int := (left.length : Int) - (fraction.length - unread.length : Nat)
    let exponent : Int := match l.exponent with
      | none => 0
      | some (negative, digits) =>
        let size := min (natOfDigits digits) (twoTo 31)
        if negative then -(size : Int) else size
    (coarse? significand (shift + exponent)).map fun x => .float (signed l.negative x)

end RecordBean.Json.Number
