/-! # Decimal literals

From the digits of a decimal literal to a binary64 number: rounded once to the nearest number, or
by the coarser rule that keeps 64 bits of digits and scales the rest with powers of ten.
-/

namespace RecordBean.Decimal

def digitValue (c : Char) : Nat := c.toNat - '0'.toNat

def natOfDigits (digits : List Char) : Nat :=
  digits.foldl (fun n c => 10 * n + digitValue c) 0

def infinity : Float := Float.ofBits 0x7FF0000000000000

def signed (negative : Bool) (x : Float) : Float := if negative then -x else x

/-- `digits · 10 ^ exponent`, rounded once. Far outside the range of the format the result is known
without computing the power. -/
def nearest (digits : Nat) (exponent : Int) : Float :=
  let magnitude := ((Nat.toDigits 10 digits).length : Int) + exponent
  if digits = 0 ∨ magnitude < -400 then 0
  else if 400 < magnitude then infinity
  else Float.ofScientific digits (decide (exponent < 0)) exponent.natAbs

/-- An exact power of ten, or the number nearest to it. -/
def powerOfTen (exponent : Nat) : Float := Float.ofScientific 1 false exponent

/-- Scale by powers of ten in binary64 arithmetic: one step for exponents up to 308, and before it
divisions by the largest power for smaller ones. Nothing is returned beyond the range. `steps`
bounds the number of divisions; two of them bring every number to zero. -/
def scaled (x : Float) (exponent : Int) : (steps : Nat) → Option Float
  | 0 => some 0
  | steps + 1 =>
    if exponent.natAbs ≤ 308 then
      if 0 ≤ exponent then
        let y := x * powerOfTen exponent.natAbs
        if y.isInf then none else some y
      else some (x / powerOfTen exponent.natAbs)
    else if x == 0 then some x
    else if 0 ≤ exponent then none
    else scaled (x / powerOfTen 308) (exponent + 308) steps

/-- The number that a significand of at most 64 bits and an exponent give by scaling. -/
def coarse? (significand : Nat) (exponent : Int) : Option Float :=
  scaled (Float.ofNat significand) exponent 4

end RecordBean.Decimal
