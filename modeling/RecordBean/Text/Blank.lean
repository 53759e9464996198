import RecordBean.Text.CodeSet

/-! # White space

The characters with the property White_Space, and trimming by them.
-/

namespace RecordBean.Text

def whiteSpace : CodeSet := ⟨[
  0x9, 0xE, 0x20, 0x21, 0x85, 0x86, 0xA0, 0xA1, 0x1680, 0x1681,
  0x2000, 0x200B, 0x2028, 0x202A, 0x202F, 0x2030, 0x205F, 0x2060, 0x3000, 0x3001]⟩

/-- White space of every script. -/
def isBlank (c : Char) : Bool := whiteSpace.contains c

/-- Whether a text holds nothing but white space. -/
def allBlank (s : String) : Bool := s.toList.all isBlank

/-- Drop the white space on both sides. -/
def trimChars (cs : List Char) : List Char :=
  ((cs.dropWhile isBlank).reverse.dropWhile isBlank).reverse

def trim (s : String) : String := String.ofList (trimChars s.toList)

end RecordBean.Text
