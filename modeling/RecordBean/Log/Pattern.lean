/-! # Patterns of field values

Regular expressions as trees, as far as it matters whether one can be used. Patterns are matched
without tables of all scripts and on text that stays well-formed, so a construct can be out of
reach, and whether it is depends on the flags in force: whether letters match in either case, and
whether matching goes by characters or by bytes.
-/

namespace RecordBean.Log

structure PatternChar where
  char : Char
  /-- Whether it is given as a byte, by two hexadecimal digits. -/
  asByte : Bool
deriving DecidableEq, Repr

/-- Flags that a pattern sets or clears. -/
structure FlagChange where
  /-- Letters match in either case. -/
  eitherCase : Option Bool
  /-- Matching goes by characters and not by bytes. -/
  byCharacter : Option Bool
  /-- Blanks and comments in the pattern are passed over. -/
  spaced : Option Bool
deriving DecidableEq, Repr

/-- A part of a set of characters. -/
inductive SetPart where
  | char (c : PatternChar)
  | range (low high : PatternChar)
  /-- A set of ASCII characters by its name. -/
  | named (negated : Bool)
  /-- The digits, the blanks or the characters of words. -/
  | shorthand (negated : Bool)
  /-- A set with operators between its unions. -/
  | nested (negated : Bool) (unions : List (List SetPart))

inductive Pattern where
  | nothing
  | change (flags : FlagChange)
  | char (c : PatternChar)
  | anyChar
  /-- An end of the text or of a line. -/
  | edge
  /-- An end of a word, or a place that is none. -/
  | wordEdge
  | shorthand (negated : Bool)
  | set (negated : Bool) (unions : List (List SetPart))
  | repeated (p : Pattern)
  | group (flags : FlagChange) (p : Pattern)
  | sequence (ps : List Pattern)
  | choice (ps : List Pattern)

/-! ## Depth

How deep the parts of a pattern stand in each other. Single characters do not count, and neither do
sequences, choices and unions of fewer than two parts. -/

mutual

def SetPart.depth : SetPart → Nat
  | .nested _ unions => setDepth unions + 1
  | _ => 0

def partsDepth : List SetPart → Nat
  | [] => 0
  | p :: ps => max p.depth (partsDepth ps)

/-- A set from its first union on. -/
def setDepth : List (List SetPart) → Nat
  | [] => 0
  | ps :: unions => operatorsDepth (partsDepth ps + ps.length.min 2 - 1) unions

/-- Every operator takes all that stands before it as one operand. -/
def operatorsDepth (before : Nat) : List (List SetPart) → Nat
  | [] => before
  | ps :: unions =>
    operatorsDepth (max before (partsDepth ps + ps.length.min 2 - 1) + 1) unions

end

mutual

def Pattern.depth : Pattern → Nat
  | .set _ unions => setDepth unions + 1
  | .repeated p => p.depth + 1
  | .group _ p => p.depth + 1
  | .sequence ps => patternsDepth ps + 1
  | .choice ps => patternsDepth ps + 1
  | _ => 0

def patternsDepth : List Pattern → Nat
  | [] => 0
  | p :: ps => max p.depth (patternsDepth ps)

end

/-! ## Use -/

/-- The flags in force at a place of a pattern. -/
structure Flags where
  eitherCase : Bool
  byCharacter : Bool
deriving DecidableEq, Repr

namespace Flags

/-- The flags with which every pattern begins. -/
def initial : Flags := ⟨false, true⟩

def apply (f : Flags) (c : FlagChange) : Flags :=
  ⟨c.eitherCase.getD f.eitherCase, c.byCharacter.getD f.byCharacter⟩

end Flags

namespace PatternChar

def isAscii (c : PatternChar) : Bool := decide (c.char.toNat < 128)

/-- Whether a character can be matched. The other case of a character is known only when matching
goes by bytes, and then no byte may be a part of a character. -/
def isUsable (f : Flags) (c : PatternChar) : Bool :=
  if f.byCharacter then !f.eitherCase else !c.asByte || c.isAscii

/-- Whether a character can stand in a set, which holds bytes when matching goes by bytes. -/
def isUsableInSet (f : Flags) (c : PatternChar) : Bool :=
  if f.byCharacter then !f.eitherCase else c.isAscii

end PatternChar

/-- The digits, blanks and characters of words are known only as bytes, and all the others would
hold parts of characters. -/
def isShorthandUsable (f : Flags) (negated : Bool) : Bool := !f.byCharacter && !negated

/-- A set that leaves characters out would hold parts of characters when matching goes by bytes. -/
def isNegationUsable (f : Flags) (negated : Bool) : Bool := f.byCharacter || !negated

mutual

def SetPart.isUsable (f : Flags) : SetPart → Bool
  | .char c => c.isUsableInSet f
  | .range low high => low.isUsableInSet f && high.isUsableInSet f
  | .named negated => isNegationUsable f negated && !(f.byCharacter && f.eitherCase)
  | .shorthand negated => isShorthandUsable f negated
  | .nested negated unions => isNegationUsable f negated && areUnionsUsable f unions

def arePartsUsable (f : Flags) : List SetPart → Bool
  | [] => true
  | p :: ps => p.isUsable f && arePartsUsable f ps

def areUnionsUsable (f : Flags) : List (List SetPart) → Bool
  | [] => true
  | ps :: unions => arePartsUsable f ps && areUnionsUsable f unions

end

mutual

/-- The flags behind a pattern that begins under the given ones, if it can be used. A change of
flags lasts to the end of its group. The ends of words are known only as bytes. -/
def Pattern.flagsBehind? (f : Flags) : Pattern → Option Flags
  | .nothing | .edge => some f
  | .change c => some (f.apply c)
  | .char c => if c.isUsable f then some f else none
  | .anyChar => if f.byCharacter then some f else none
  | .wordEdge => if f.byCharacter then none else some f
  | .shorthand negated => if isShorthandUsable f negated then some f else none
  | .set negated unions =>
    if isNegationUsable f negated && areUnionsUsable f unions then some f else none
  | .repeated p => p.flagsBehind? f
  | .group c p => (p.flagsBehind? (f.apply c)).map fun _ => f
  | .sequence ps => flagsBehindAll? f ps
  | .choice ps => flagsBehindAll? f ps

def flagsBehindAll? (f : Flags) : List Pattern → Option Flags
  | [] => some f
  | p :: ps =>
    match p.flagsBehind? f with
    | none => none
    | some f => flagsBehindAll? f ps

end

namespace Pattern

/-- How deep the parts of a pattern may stand in each other. -/
def depthLimit : Nat := 250

def isUsable (p : Pattern) : Bool :=
  decide (p.depth ≤ depthLimit) && (p.flagsBehind? .initial).isSome

/-- A sequence of patterns; a single one is no sequence. -/
def inSequence : List Pattern → Pattern
  | [] => .nothing
  | [p] => p
  | ps => .sequence ps

/-- A choice between patterns; a single one is no choice. -/
def oneOf : List Pattern → Pattern
  | [p] => p
  | ps => .choice ps

end Pattern

end RecordBean.Log
