/-! # Powers of the two bases

Powers of two measure binary numbers and the widths of integers, powers of ten measure decimals.
-/

namespace RecordBean.Decimal

def twoTo (exponent : Nat) : Nat := Nat.pow 2 exponent

def tenTo (exponent : Nat) : Nat := Nat.pow 10 exponent

end RecordBean.Decimal
