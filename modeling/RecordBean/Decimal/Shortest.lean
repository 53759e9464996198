import RecordBean.Decimal.Power

/-! # Shortest decimals

The shortest decimal that reads back as a given binary64 number, in exact arithmetic: for ever
more digits the two neighbours of the value on the decimal grid are tested against the interval of
reals that round to it. The first grid with a hit gives the digits, and of two hits the nearer one
is taken. What happens half-way between two hits is up to the style in which the number is written.
-/

namespace RecordBean.Decimal

/-- A positive number `mantissa · 2 ^ exponent` with the width of the gap below it. -/
structure Dyadic where
  mantissa : Nat
  exponent : Int
  /-- Whether the next number below is only half as far as the next one above. -/
  narrowBelow : Bool

/-- The decimal `digits · 10 ^ exponent`. -/
structure Scientific where
  digits : Nat
  exponent : Int
deriving DecidableEq, Repr

/-- Which of two decimals is taken if a number lies half-way between them. -/
inductive Tie where
  | up
  /-- The one whose last digit is even. -/
  | toEven
deriving DecidableEq, Repr

/-- The digits taken half-way between `below` and the next ones. -/
def Tie.choose (t : Tie) (below : Nat) : Nat :=
  match t with
  | .up => below + 1
  | .toEven => if below % 2 = 0 then below else below + 1

/-- The value, the ends of its rounding interval and their common denominator. -/
structure Interval where
  low : Nat
  value : Nat
  high : Nat
  denominator : Nat
  /-- Whether the ends themselves round to the value. -/
  closed : Bool

namespace Dyadic

/-- Quarters of the last place keep all three points whole. -/
def interval (d : Dyadic) : Interval :=
  let scale := twoTo (d.exponent - 2).toNat
  { low := (4 * d.mantissa - (if d.narrowBelow then 1 else 2)) * scale
    value := 4 * d.mantissa * scale
    high := (4 * d.mantissa + 2) * scale
    denominator := twoTo (2 - d.exponent).toNat
    closed := d.mantissa % 2 == 0 }

end Dyadic

namespace Interval

/-- Whether `digits · 10 ^ exponent` rounds to the value. -/
def holds (i : Interval) (digits : Nat) (exponent : Int) : Bool :=
  let point := digits * tenTo exponent.toNat * i.denominator
  let unit := tenTo (-exponent).toNat
  if i.closed then decide (i.low * unit ≤ point) && decide (point ≤ i.high * unit)
  else decide (i.low * unit < point) && decide (point < i.high * unit)

/-- The neighbour of the value on the grid `10 ^ exponent` that rounds to it, the nearer one if
both do. -/
def onGrid? (tie : Tie) (i : Interval) (exponent : Int) : Option Nat :=
  let unit := tenTo (-exponent).toNat
  let grid := i.denominator * tenTo exponent.toNat
  let below := i.value * unit / grid
  let rest := i.value * unit % grid
  match i.holds below exponent, i.holds (below + 1) exponent with
  | true, true =>
    some (if 2 * rest < grid then below else if 2 * rest = grid then tie.choose below
      else below + 1)
  | true, false => some below
  | false, true => some (below + 1)
  | false, false => none

/-- The number of digits before the point, for a value below one the negated number of zeros behind
it. -/
def magnitude (i : Interval) : Int :=
  if i.denominator ≤ i.value then ((Nat.toDigits 10 (i.value / i.denominator)).length : Int)
  else Int.negOfNat (((List.range 400).find? fun zeros =>
    decide (i.denominator ≤ i.value * tenTo (zeros + 1))).getD 400)

/-- Search grids of `count`, `count + 1`, … digits; `left` bounds their number. -/
def search (tie : Tie) (i : Interval) (magnitude : Int) (count : Nat) : Nat → Scientific
  | 0 => ⟨i.value / i.denominator, 0⟩
  | left + 1 =>
    let exponent := magnitude - count
    match i.onGrid? tie exponent with
    | some digits => ⟨digits, exponent⟩
    | none => search tie i magnitude (count + 1) left

/-- Seventeen digits always suffice. The search begins one place to the left of the first digit,
where a value just below a power of ten finds that power. -/
def shortest (tie : Tie) (i : Interval) : Scientific := i.search tie i.magnitude 0 18

end Interval

/-- A binary64 number taken apart. -/
inductive Parts where
  | nan
  | infinite (negative : Bool)
  | zero (negative : Bool)
  | finite (negative : Bool) (size : Dyadic)

def Parts.ofBits (bits : UInt64) : Parts :=
  let negative := bits >>> 63 == 1
  let exponent := ((bits >>> 52) &&& 0x7FF).toNat
  let fraction := (bits &&& 0xFFFFFFFFFFFFF).toNat
  if exponent = 0x7FF then (if fraction = 0 then .infinite negative else .nan)
  else if exponent = 0 then
    if fraction = 0 then .zero negative else .finite negative ⟨fraction, -1074, false⟩
  else .finite negative
    ⟨twoTo 52 + fraction, (exponent : Int) - 1075, fraction == 0 && decide (1 < exponent)⟩

/-! ## Text -/

/-- The powers of ten from `10 ^ low` to `10 ^ high`. -/
structure PowerRange where
  low : Int
  high : Int
deriving DecidableEq, Repr

structure Style where
  tie : Tie
  /-- The powers for which the first digit can stand in a number without an exponent; without a
  range no number has an exponent. -/
  positional : Option PowerRange
deriving DecidableEq, Repr

namespace Scientific

/-- The power of ten for which the first digit stands. -/
def leadingPower (s : Scientific) : Int := s.exponent + (Nat.toDigits 10 s.digits).length - 1

/-- Written with a point and without an exponent, with at least one digit on both sides of the
point. -/
def positional (s : Scientific) : String :=
  let places := (-s.exponent).toNat
  let whole := s.digits * tenTo s.exponent.toNat / tenTo places
  let fraction := (Nat.toDigits 10 (s.digits % tenTo places))
  String.ofList (Nat.toDigits 10 whole ++ '.' ::
    (List.replicate (places - fraction.length) '0' ++ fraction))

/-- Written with one digit before the point and an exponent with its sign. A single digit has no
point. -/
def exponential (s : Scientific) : String :=
  let power := s.leadingPower
  let mantissa := match Nat.toDigits 10 s.digits with
    | first :: second :: rest => first :: '.' :: second :: rest
    | digits => digits
  String.ofList mantissa ++ (if power < 0 then "e-" else "e+") ++ toString power.natAbs

def shown (style : Style) (s : Scientific) : String :=
  match style.positional with
  | none => s.positional
  | some range =>
    if range.low ≤ s.leadingPower ∧ s.leadingPower ≤ range.high then s.positional
    else s.exponential

end Scientific

/-- A number as messages show it, with the shortest digits. -/
def Parts.shown (style : Style) : Parts → String
  | .nan => "NaN"
  | .infinite negative => if negative then "-inf" else "inf"
  | .zero negative => if negative then "-0.0" else "0.0"
  | .finite negative size =>
    (if negative then "-" else "") ++ (size.interval.shortest style.tie).shown style

/-- A floating point number as messages show it. -/
def shown (style : Style) (x : Float) : String := (Parts.ofBits x.toBits).shown style

end RecordBean.Decimal
