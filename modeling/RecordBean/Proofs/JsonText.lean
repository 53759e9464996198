import Mathlib.Tactic.SplitIfs
import RecordBean.Json.Reader
import RecordBean.Json.Writer
import RecordBean.Proofs.Numerals

/-! # Reading written JSON

The text that the writer gives for a value reads back as the tree of that value, whatever follows
it: strings by undoing their escapes, integers by their digits, and lists and objects item by item.
Floating point numbers are left out, since no encoder writes one. -/

namespace RecordBean.Json
open RecordBean.Decimal RecordBean.Document RecordBean.Numerals

/-! ## Strings -/

namespace Quoted

theorem encode_append (s : String) (rest : List Char) :
    encode s ++ rest = '"' :: (s.toList.flatMap encodeChar ++ '"' :: rest) := by
  simp [encode]

theorem hexCode_control {c : Char} (h : c.toNat < 32) (rest : List Char) :
    hexCode ('0' :: '0' :: Nat.digitChar (c.toNat / 16) :: Nat.digitChar (c.toNat % 16) :: rest)
      = .ok (c.toNat, rest) := by
  simp [hexCode, natOfHex?_escape (show c.toNat < 256 by omega)]

theorem escapedChar_control {c : Char} (h : c.toNat < 32) (rest : List Char) :
    escapedChar ('u' :: '0' :: '0' :: Nat.digitChar (c.toNat / 16)
      :: Nat.digitChar (c.toNat % 16) :: rest) = .ok (c, rest) := by
  have htrail : isTrail c.toNat = false := by simp [isTrail]; omega
  have hlead : isLead c.toNat = false := by simp [isLead]; omega
  simp [escapedChar, codeChar, hexCode_control h, htrail, hlead]

theorem encodeChar_ne_nil (c : Char) : encodeChar c ≠ [] := by
  simp only [encodeChar, controlEscape]
  split_ifs <;> simp

/-- Reading takes a written character back in one step. -/
theorem decode_encodeChar (c : Char) (steps : Nat) (cs : List Char) :
    decode (steps + 1) (encodeChar c ++ cs)
      = (decode steps cs).map fun (body, rest) => (c :: body, rest) := by
  unfold encodeChar
  split_ifs with h1 h2 h3 h4 h5 h6 h7 h8
  case pos => simp [decode, escapedChar, letterChar?, h1]
  case pos => simp [decode, escapedChar, letterChar?, h2]
  case pos => simp [decode, escapedChar, letterChar?, h3]
  case pos => simp [decode, escapedChar, letterChar?, h4]
  case pos => simp [decode, escapedChar, letterChar?, h5]
  case pos => simp [decode, escapedChar, letterChar?, h6]
  case pos => simp [decode, escapedChar, letterChar?, h7]
  case pos => simp [decode, controlEscape, escapedChar_control h8]
  case neg => simp [decode, h1, h2, h8]

theorem decode_encoded (s : List Char) (steps : Nat) (rest : List Char) (h : s.length < steps) :
    decode steps (s.flatMap encodeChar ++ '"' :: rest) = .ok (s, rest) := by
  induction s generalizing steps with
  | nil =>
    obtain ⟨steps, rfl⟩ : ∃ k, steps = k + 1 := ⟨steps - 1, by simp at h; omega⟩
    simp [decode]
  | cons c s ih =>
    obtain ⟨steps, rfl⟩ : ∃ k, steps = k + 1 := ⟨steps - 1, by simp at h; omega⟩
    have hs : s.length < steps := by simpa using h
    rw [List.flatMap_cons, List.append_assoc, decode_encodeChar, ih steps hs]
    rfl

end Quoted

theorem readQuoted_encode (s : String) (rest : List Char) :
    readQuoted (s.toList.flatMap Quoted.encodeChar ++ '"' :: rest) = ⟨.ok s, some rest⟩ := by
  have hlen := length_le_flatMap Quoted.encodeChar_ne_nil s.toList
  have h := Quoted.decode_encoded s.toList
    ((s.toList.flatMap Quoted.encodeChar ++ '"' :: rest).length + 1) rest (by
      rw [List.length_append]
      omega)
  simp only [readQuoted, h, String.ofList_toList]

/-! ## Numbers -/

/-- A text in front of which every number ends. -/
def EndsNumber (rest : List Char) : Prop :=
  ∀ c, rest.head? = some c → c.isDigit = false ∧ c ≠ '.' ∧ c ≠ 'e' ∧ c ≠ 'E'

theorem endsNumber_nil : EndsNumber [] := by
  intro c h
  cases h

theorem endsNumber_cons {c : Char} {rest : List Char} (h : c = ',' ∨ c = ']' ∨ c = '\x7d') :
    EndsNumber (c :: rest) := by
  intro d hd
  cases hd
  obtain rfl | rfl | rfl := h <;> decide

namespace Number

theorem scanWhole_digitsOf (n : Int) {rest : List Char} (h : EndsNumber rest) :
    scanWhole (digitsOf n ++ rest) = .ok (digitsOf n, rest) := by
  have hdigits : ∀ c ∈ digitsOf n, c.isDigit = true := fun c hc => isDigit_of_mem_digitsOf hc
  have htake : (digitsOf n ++ rest).takeWhile Char.isDigit = digitsOf n := by
    rw [List.takeWhile_append_of_pos hdigits]
    cases rest with
    | nil => simp
    | cons c rest => simp [(h c rfl).1]
  have hdrop : (digitsOf n ++ rest).dropWhile Char.isDigit = rest := by
    rw [List.dropWhile_append_of_pos hdigits]
    cases rest with
    | nil => simp
    | cons c rest => simp [(h c rfl).1]
  obtain ⟨c, cs, hcs, -, hzero⟩ := digitsOf_eq_cons n
  simp only [scanWhole, htake, hdrop]
  rw [hcs]
  split
  · next heq => cases heq
  · next heq =>
    injection heq with hc htail
    cases (hzero hc).symm.trans htail
  · rfl

theorem scanFraction_none {rest : List Char} (h : EndsNumber rest) :
    scanFraction rest = .ok (none, rest) := by
  unfold scanFraction
  split
  · exact absurd rfl (h '.' rfl).2.1
  · rfl

theorem scanExponent_none {rest : List Char} (h : EndsNumber rest) :
    scanExponent rest = .ok (none, rest) := by
  cases rest with
  | nil => rfl
  | cons c rest =>
    obtain ⟨-, -, he, hE⟩ := h c rfl
    simp [scanExponent, he, hE]

/-- A written integer is scanned whole. -/
theorem scan_integer (n : Int) {rest : List Char} (h : EndsNumber rest) :
    scan (writeNumeral (.integer n) ++ rest)
      = .ok (⟨decide (n < 0), digitsOf n, none, none⟩, rest) := by
  obtain ⟨c, cs, hcs, hdigit, -⟩ := digitsOf_eq_cons n
  have hminus : c ≠ '-' := by
    rintro rfl
    cases hdigit
  rw [writeNumeral, toString_int, signOf]
  split
  · next hneg =>
    simp [scan, bind, Except.bind, pure, Except.pure, scanWhole_digitsOf n h,
      scanFraction_none h, scanExponent_none h, hneg]
  · next hneg =>
    have hwhole := scanWhole_digitsOf n h
    rw [hcs, List.cons_append] at hwhole
    simp [scan, bind, Except.bind, pure, Except.pure, hcs, hminus, hwhole,
      scanFraction_none h, scanExponent_none h, hneg]

end Number

theorem writeNumeral_eq_cons (n : Int) :
    ∃ c cs, writeNumeral (.integer n) = c :: cs ∧ startsNumber c = true := by
  rw [writeNumeral, toString_int]
  exact integer_eq_cons n

/-- What follows a written integer has no part in it. -/
theorem readNumber_integer (n : Int) {rest : List Char} (h : EndsNumber rest) :
    readNumber (writeNumeral (.integer n) ++ rest)
      = ⟨(readNumber (writeNumeral (.integer n))).value, some rest⟩ := by
  have halone := Number.scan_integer n endsNumber_nil
  rw [List.append_nil] at halone
  simp only [readNumber, Number.scan_integer n h, halone]
  cases Number.Literal.value? ⟨decide (n < 0), digitsOf n, none, none⟩ <;> rfl

/-- A written integer is a number or, far beyond the range, a place that can be passed over. -/
theorem readNumber_integer_cases (n : Int) :
    (∃ x, (readNumber (writeNumeral (.integer n))).value = .number x)
      ∨ (readNumber (writeNumeral (.integer n))).value
          = .gap ⟨.malformed, .malformed, .malformed, none⟩ := by
  have hscan := Number.scan_integer n endsNumber_nil
  rw [List.append_nil] at hscan
  simp only [readNumber, hscan]
  cases Number.Literal.value? ⟨decide (n < 0), digitsOf n, none, none⟩ with
  | none => exact .inr rfl
  | some x => exact .inl ⟨x, rfl⟩

/-! ## Values -/

mutual

/-- The tree that the text of a value reads as. Members stay in the order in which they are
written. -/
def tree : Json → Node
  | .null => .null
  | .boolean value => .boolean value
  | .number value => (readNumber (writeNumeral value)).value
  | .text value => .text value
  | .list items => .list (trees items) none
  | .object members => .table (namedEntries (memberTrees members)) none

def trees : List Json → List Node
  | [] => []
  | j :: rest => j.tree :: trees rest

def memberTrees : List (String × Json) → List (String × Node)
  | [] => []
  | (name, j) :: rest => (name, j.tree) :: memberTrees rest

end

mutual

/-- Whether every number in a value is an integer. -/
def isExact : Json → Bool
  | .number (.float _) => false
  | .list items => areExact items
  | .object members => areExactMembers members
  | _ => true

def areExact : List Json → Bool
  | [] => true
  | j :: rest => j.isExact && areExact rest

def areExactMembers : List (String × Json) → Bool
  | [] => true
  | (_, j) :: rest => j.isExact && areExactMembers rest

end

/-- How the text of a value begins. -/
theorem write_eq_cons {j : Json} (h : j.isExact = true) :
    ∃ c cs, j.write = c :: cs ∧ isSpace c = false ∧ c ≠ ']' := by
  cases j with
  | null => exact ⟨'n', _, rfl, by decide, by decide⟩
  | boolean value => cases value <;> exact ⟨_, _, rfl, by decide, by decide⟩
  | text value => exact ⟨'"', _, rfl, by decide, by decide⟩
  | list items => exact ⟨'[', _, rfl, by decide, by decide⟩
  | object members => exact ⟨'\x7b', _, rfl, by decide, by decide⟩
  | number value =>
    cases value with
    | float value => cases h
    | integer n =>
      obtain ⟨c, cs, hcs, hstart⟩ := writeNumeral_eq_cons n
      have hspace : isSpace c = false := by
        simp only [isSpace, Bool.or_eq_false_iff, beq_eq_false_iff_ne]
        exact ⟨⟨⟨ne_of_startsNumber hstart rfl, ne_of_startsNumber hstart rfl⟩,
          ne_of_startsNumber hstart rfl⟩, ne_of_startsNumber hstart rfl⟩
      exact ⟨c, cs, hcs, hspace, ne_of_startsNumber hstart rfl⟩

theorem write_length_pos {j : Json} (h : j.isExact = true) : 1 ≤ j.write.length := by
  obtain ⟨c, cs, hcs, -, -⟩ := write_eq_cons h
  simp [hcs]

theorem writeItems_eq_cons {j : Json} {items : List Json} (h : areExact (j :: items) = true) :
    ∃ c cs, writeItems (j :: items) = c :: cs ∧ isSpace c = false ∧ c ≠ ']' := by
  rw [areExact, Bool.and_eq_true] at h
  obtain ⟨c, cs, hcs, hspace, hclose⟩ := write_eq_cons h.1
  cases items with
  | nil => exact ⟨c, cs, hcs, hspace, hclose⟩
  | cons k items => exact ⟨c, _, by rw [writeItems, hcs]; rfl, hspace, hclose⟩

theorem writeMembers_eq_cons (m : String × Json) (members : List (String × Json)) :
    ∃ cs, writeMembers (m :: members) = '"' :: cs := by
  cases members with
  | nil => exact ⟨_, rfl⟩
  | cons k members => exact ⟨_, rfl⟩

theorem skipSpace_cons {c : Char} (h : isSpace c = false) (cs : List Char) :
    skipSpace (c :: cs) = c :: cs := by
  simp [skipSpace, h]

theorem readValue_integer (n : Int) (steps : Nat) {rest : List Char} (h : EndsNumber rest) :
    readValue (steps + 1) (writeNumeral (.integer n) ++ rest)
      = ⟨(readNumber (writeNumeral (.integer n))).value, some rest⟩ := by
  rw [← readNumber_integer n h]
  obtain ⟨c, cs, hcs, hspace, -⟩ := write_eq_cons (j := .number (.integer n)) rfl
  obtain ⟨c', cs', hcs', hstart⟩ := writeNumeral_eq_cons n
  cases hcs.symm.trans hcs'
  have hquote : c ≠ '"' := ne_of_startsNumber hstart rfl
  have hbracket : c ≠ '[' := ne_of_startsNumber hstart rfl
  have hbrace : c ≠ '\x7b' := ne_of_startsNumber hstart rfl
  have hnumber : c = '-' ∨ c.isDigit = true := by simpa [startsNumber] using hstart
  rw [hcs', List.cons_append, readValue, skipSpace_cons hspace]
  simp only [if_neg hquote, if_neg hbracket, if_neg hbrace, if_pos hnumber]

/-- A list whose first item is not missing is read item by item. -/
theorem readValue_list (steps : Nat) {c : Char} (cs : List Char) (hspace : isSpace c = false)
    (hclose : c ≠ ']') :
    readValue (steps + 1) ('[' :: c :: cs)
      = ⟨.list (readItems steps (c :: cs)).value.1 (readItems steps (c :: cs)).value.2,
          (readItems steps (c :: cs)).rest⟩ := by
  have hopen : isSpace '[' = false := by decide
  simp [readValue, skipSpace_cons hopen, skipSpace_cons hspace, hclose]

/-- A table whose first entry is not missing is read entry by entry. -/
theorem readValue_table (steps : Nat) (cs : List Char) :
    readValue (steps + 1) ('\x7b' :: '"' :: cs)
      = ⟨.table (readEntries steps ('"' :: cs)).value.1 (readEntries steps ('"' :: cs)).value.2,
          (readEntries steps ('"' :: cs)).rest⟩ := by
  have hopen : isSpace '\x7b' = false := by decide
  have hquote : isSpace '"' = false := by decide
  simp [readValue, skipSpace_cons hopen, skipSpace_cons hquote]

theorem readKey_encode (name : String) (rest : List Char) :
    readKey (name.toList.flatMap Quoted.encodeChar ++ '"' :: rest) = ⟨.name name, some rest⟩ := by
  simp only [readKey, readQuoted_encode]

theorem expectColon_cons (rest : List Char) : expectColon (':' :: rest) = .ok rest := by
  simp [expectColon, skipSpace, isSpace]

/-- The last entry of a table. -/
theorem readEntries_last {name : String} {steps : Nat} {cs rest : List Char} {n : Node}
    (h : readValue steps cs = ⟨n, some ('\x7d' :: rest)⟩) :
    readEntries (steps + 1) (Quoted.encode name ++ ':' :: cs)
      = ⟨([(.name name, n)], none), some rest⟩ := by
  have hquote : isSpace '"' = false := by decide
  have hbrace : isSpace '\x7d' = false := by decide
  rw [Quoted.encode_append, readEntries, skipSpace_cons hquote]
  simp only [readKey_encode, expectColon_cons, h, skipSpace_cons hbrace]

/-- An entry behind which others follow. -/
theorem readEntries_next {name : String} {steps : Nat} {cs rest : List Char} {n : Node}
    (h : readValue steps cs = ⟨n, some (',' :: rest)⟩) :
    readEntries (steps + 1) (Quoted.encode name ++ ':' :: cs)
      = ⟨((.name name, n) :: (readEntries steps rest).value.1, (readEntries steps rest).value.2),
          (readEntries steps rest).rest⟩ := by
  have hquote : isSpace '"' = false := by decide
  have hcomma : isSpace ',' = false := by decide
  rw [Quoted.encode_append, readEntries, skipSpace_cons hquote]
  simp only [readKey_encode, expectColon_cons, h, skipSpace_cons hcomma]

mutual

/-- A written value reads as its tree, and reading stops behind it. Two steps for every character
are enough: one for the value and one for the list or the table around it. -/
theorem readValue_write : ∀ (j : Json) (steps : Nat) (rest : List Char), j.isExact = true →
    EndsNumber rest → 2 * j.write.length ≤ steps + 1 →
    readValue (steps + 1) (j.write ++ rest) = ⟨j.tree, some rest⟩
  | .null, steps, rest, _, _, _ => by
    simp [readValue, write, tree, skipSpace, isSpace, readWord, matchWord]
  | .boolean value, steps, rest, _, _, _ => by
    cases value <;> simp [readValue, write, tree, skipSpace, isSpace, readWord, matchWord]
  | .number (.float _), _, _, hexact, _, _ => by cases hexact
  | .number (.integer n), steps, rest, _, hrest, _ => readValue_integer n steps hrest
  | .text s, steps, rest, _, _, _ => by
    rw [write, Quoted.encode_append]
    simp [readValue, tree, skipSpace, isSpace, readTextNode, readQuoted_encode]
  | .list [], steps, rest, _, _, _ => by
    simp [readValue, write, writeItems, tree, trees, skipSpace, isSpace]
  | .list (j :: items), steps, rest, hexact, _, hsteps => by
    have hlen : 2 * (writeItems (j :: items)).length ≤ steps - 1 := by
      simp only [write, List.length_cons, List.length_append, List.length_nil] at hsteps
      omega
    obtain ⟨steps, rfl⟩ : ∃ k, steps = k + 1 := ⟨steps - 1, by
      simp only [write, List.length_cons, List.length_append, List.length_nil] at hsteps
      omega⟩
    obtain ⟨c, cs, hcs, hspace, hclose⟩ := writeItems_eq_cons hexact
    have hitems := readItems_write j items steps rest hexact hlen
    rw [hcs, List.cons_append] at hitems
    rw [write, List.cons_append, List.cons_append, List.append_assoc, List.singleton_append, hcs, List.cons_append,
      readValue_list _ _ hspace hclose, hitems, tree]
  | .object [], steps, rest, _, _, _ => by
    simp [readValue, write, writeMembers, tree, memberTrees, namedEntries, skipSpace, isSpace]
  | .object (m :: members), steps, rest, hexact, _, hsteps => by
    have hlen : 2 * (writeMembers (m :: members)).length ≤ steps - 1 := by
      simp only [write, List.length_cons, List.length_append, List.length_nil] at hsteps
      omega
    obtain ⟨steps, rfl⟩ : ∃ k, steps = k + 1 := ⟨steps - 1, by
      simp only [write, List.length_cons, List.length_append, List.length_nil] at hsteps
      omega⟩
    obtain ⟨cs, hcs⟩ := writeMembers_eq_cons m members
    have hentries := readEntries_write m members steps rest hexact hlen
    rw [hcs, List.cons_append] at hentries
    rw [write, List.cons_append, List.cons_append, List.append_assoc, List.singleton_append, hcs, List.cons_append,
      readValue_table, hentries, tree]

theorem readItems_write : ∀ (j : Json) (items : List Json) (steps : Nat) (rest : List Char),
    areExact (j :: items) = true → 2 * (writeItems (j :: items)).length ≤ steps →
    readItems (steps + 1) (writeItems (j :: items) ++ ']' :: rest)
      = ⟨(trees (j :: items), none), some rest⟩
  | j, [], steps, rest, hexact, hsteps => by
    have hj : j.isExact = true := by simpa [areExact] using hexact
    have hpos := write_length_pos hj
    rw [writeItems] at hsteps ⊢
    obtain ⟨steps, rfl⟩ : ∃ k, steps = k + 1 := ⟨steps - 1, by omega⟩
    have hvalue := readValue_write j steps (']' :: rest) hj (endsNumber_cons (by simp)) hsteps
    simp [readItems, hvalue, skipSpace_cons, isSpace, trees]
  | j, k :: items, steps, rest, hexact, hsteps => by
    rw [areExact, Bool.and_eq_true] at hexact
    have hpos := write_length_pos hexact.1
    rw [writeItems, List.length_append, List.length_cons] at hsteps
    obtain ⟨steps, rfl⟩ : ∃ k, steps = k + 1 := ⟨steps - 1, by omega⟩
    have hvalue := readValue_write j steps (',' :: (writeItems (k :: items) ++ ']' :: rest))
      hexact.1 (endsNumber_cons (by simp)) (by omega)
    have hrest := readItems_write k items steps rest hexact.2 (by omega)
    rw [writeItems, List.append_assoc, List.cons_append, readItems, hvalue]
    simp [skipSpace_cons, isSpace, hrest, trees]

theorem readEntries_write : ∀ (m : String × Json) (members : List (String × Json)) (steps : Nat)
    (rest : List Char), areExactMembers (m :: members) = true →
    2 * (writeMembers (m :: members)).length ≤ steps →
    readEntries (steps + 1) (writeMembers (m :: members) ++ '\x7d' :: rest)
      = ⟨(namedEntries (memberTrees (m :: members)), none), some rest⟩
  | (name, j), [], steps, rest, hexact, hsteps => by
    have hj : j.isExact = true := by simpa [areExactMembers] using hexact
    have hpos := write_length_pos hj
    rw [writeMembers, List.length_append, List.length_cons] at hsteps
    obtain ⟨steps, rfl⟩ : ∃ k, steps = k + 1 := ⟨steps - 1, by omega⟩
    have hvalue := readValue_write j steps ('\x7d' :: rest) hj (endsNumber_cons (by simp))
      (by omega)
    rw [writeMembers, List.append_assoc, List.cons_append, readEntries_last hvalue]
    rfl
  | (name, j), m :: members, steps, rest, hexact, hsteps => by
    rw [areExactMembers, Bool.and_eq_true] at hexact
    have hpos := write_length_pos hexact.1
    rw [writeMembers, List.length_append, List.length_cons, List.length_append,
      List.length_cons] at hsteps
    obtain ⟨steps, rfl⟩ : ∃ k, steps = k + 1 := ⟨steps - 1, by omega⟩
    have hvalue := readValue_write j steps (',' :: (writeMembers (m :: members) ++ '\x7d' :: rest))
      hexact.1 (endsNumber_cons (by simp)) (by omega)
    have hrest := readEntries_write m members steps rest hexact.2 (by omega)
    rw [writeMembers, List.append_assoc, List.cons_append, List.append_assoc, List.cons_append,
      readEntries_next hvalue, hrest]
    rfl

end

/-! ## Documents -/

theorem Reading.of_render {j : Json} (h : j.isExact = true) :
    Reading.of j.render = ⟨j.tree, false⟩ := by
  have hvalue := readValue_write j (2 * j.write.length + 1) [] h endsNumber_nil (by omega)
  rw [List.append_nil] at hvalue
  simp [Reading.of, render, hvalue, skipSpace]

/-- Decoding the text of a value decodes its tree. -/
theorem decode_render {α : Type} (read : Reader α) {j : Json} (h : j.isExact = true) :
    decode read j.render = read .jsonText j.tree := by
  rw [decode, Reading.of_render h]
  cases read .jsonText j.tree <;> rfl

end RecordBean.Json
