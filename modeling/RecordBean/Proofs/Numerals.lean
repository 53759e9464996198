import RecordBean.Json.Quoted

/-! # Written numbers

What the readers rely on about the digits that the writers give them: the decimal digits of an
integer, with its sign apart, and the four hexadecimal digits in the escape of a character. -/

namespace RecordBean.Numerals
open RecordBean.Decimal RecordBean.Text

/-! ## Integers -/

/-- The decimal digits of a number without its sign. -/
def digitsOf (n : Int) : List Char := Nat.toDigits 10 n.natAbs

/-- What stands in front of the digits. -/
def signOf (n : Int) : List Char := if n < 0 then ['-'] else []

theorem toString_int (n : Int) : (toString n).toList = signOf n ++ digitsOf n := by
  rw [Int.toString_eq_repr]
  cases n with
  | ofNat m =>
    simp [Int.repr, signOf, digitsOf, Nat.repr_eq_ofList_toDigits]
  | negSucc m =>
    have hm : Int.negSucc m < 0 := Int.negSucc_lt_zero m
    simp [Int.repr, signOf, digitsOf, hm, Nat.repr_eq_ofList_toDigits]

theorem isDigit_of_mem_digitsOf {n : Int} {c : Char} (h : c ∈ digitsOf n) : c.isDigit = true :=
  Nat.isDigit_of_mem_toDigits (by decide) (by decide) h

theorem toDigits_leading_zero (n : Nat) (h : (Nat.toDigits 10 n).head? = some '0') : n = 0 := by
  induction n using Nat.strongRecOn with
  | ind n ih =>
    rw [Nat.toDigits_eq_if (by decide)] at h
    split at h
    · simpa using h
    · next hn =>
      have hhead : (Nat.toDigits 10 (n / 10)).head? = some '0' := by
        rw [List.head?_append] at h
        cases hd : (Nat.toDigits 10 (n / 10)).head? with
        | none => exact absurd (List.head?_eq_none_iff.mp hd) Nat.toDigits_ne_nil
        | some c => simpa [hd] using h
      have hdiv := ih (n / 10) (by omega) hhead
      omega

/-- The digits of a number: there is one in front, and no zero unless it stands alone. -/
theorem digitsOf_eq_cons (n : Int) :
    ∃ c cs, digitsOf n = c :: cs ∧ c.isDigit = true ∧ (c = '0' → cs = []) := by
  obtain ⟨c, cs, hcs⟩ : ∃ c cs, digitsOf n = c :: cs := List.exists_cons_of_ne_nil
    Nat.toDigits_ne_nil
  refine ⟨c, cs, hcs, isDigit_of_mem_digitsOf (by rw [hcs]; exact List.mem_cons_self), ?_⟩
  intro hzero
  have hn : n.natAbs = 0 := toDigits_leading_zero _ (by
    rw [← digitsOf, hcs, hzero]
    rfl)
  rw [digitsOf, hn, Nat.toDigits_zero] at hcs
  cases hcs
  rfl

theorem natOfDigits_digitsOf (n : Int) : natOfDigits (digitsOf n) = n.natAbs := by
  have h : Nat.ofDigitChars 10 (digitsOf n) 0 = n.natAbs := Nat.ofDigitChars_ten_toDigits
  rw [Nat.ofDigitChars_eq_foldl] at h
  exact h

/-- How the text of an integer begins. -/
def startsNumber (c : Char) : Bool := c == '-' || c.isDigit

theorem integer_eq_cons (n : Int) :
    ∃ c cs, signOf n ++ digitsOf n = c :: cs ∧ startsNumber c = true := by
  unfold signOf
  split
  · exact ⟨'-', digitsOf n, rfl, rfl⟩
  · obtain ⟨c, cs, hcs, hdigit, -⟩ := digitsOf_eq_cons n
    exact ⟨c, cs, hcs, by simp [startsNumber, hdigit]⟩

theorem ne_of_startsNumber {c d : Char} (h : startsNumber c = true)
    (hd : startsNumber d = false) : c ≠ d := by
  rintro rfl
  rw [h] at hd
  cases hd

/-! ## Escapes -/

/-- The digits of a character escape stand for the character that was written. -/
theorem natOfHex?_escape {n : Nat} (h : n < 256) :
    natOfHex? ['0', '0', Nat.digitChar (n / 16), Nat.digitChar (n % 16)] = some n := by
  have hall : ∀ m < 256,
      natOfHex? ['0', '0', Nat.digitChar (m / 16), Nat.digitChar (m % 16)] = some m := by
    decide +kernel
  exact hall n h

/-- A text is not longer than its escaped form. -/
theorem length_le_flatMap {escape : Char → List Char} (h : ∀ c, escape c ≠ []) (s : List Char) :
    s.length ≤ (s.flatMap escape).length := by
  induction s with
  | nil => simp
  | cons c s ih =>
    have hc := List.length_pos_iff.mpr (h c)
    rw [List.flatMap_cons, List.length_append, List.length_cons]
    omega

end RecordBean.Numerals
