/-! # Sets of code points

A property of characters is kept as the ordered list of the code points at which membership
changes: outside before the first, inside from the first to the second, and so on. Membership is
the parity of the boundaries that are not beyond the character.
-/

namespace RecordBean.Text

/-- A set of code points, given by the points at which membership changes. -/
structure CodeSet where
  boundaries : List Nat

namespace CodeSet

/-- Walk over the boundaries that are at most `code`, flipping membership at each. -/
def walk (code : Nat) : Bool → List Nat → Bool
  | inside, [] => inside
  | inside, b :: rest => if code < b then inside else walk code (!inside) rest

def contains (s : CodeSet) (c : Char) : Bool := walk c.toNat false s.boundaries

end CodeSet

end RecordBean.Text
