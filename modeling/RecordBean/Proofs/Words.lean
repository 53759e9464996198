import RecordBean.Proofs.QualifiedName
import RecordBean.SourceFile

/-! # Words

The names that a member takes from a record are words: they hold no blank, no bracket, no comma and
no other ASCII punctuation, so a reader of the printed text can tell where such a name ends. Every
identifier is a word, and so is the accessor suffix made from one. The case tables could lead out
of the words in two ways, down into ASCII punctuation or to a number that is no character; both are
excluded for all runs at once. -/

namespace RecordBean.Text

/-- What can stand in a name: letters, digits, two signs, and all beyond ASCII. -/
def isWordChar (c : Char) : Bool := decide (128 ≤ c.toNat) || c.isAlphanum || c == '_' || c == '$'

/-- At least one character, and word characters only. -/
def IsWord (cs : List Char) : Prop := cs ≠ [] ∧ cs.all isWordChar = true

instance (cs : List Char) : Decidable (IsWord cs) :=
  inferInstanceAs (Decidable (cs ≠ [] ∧ cs.all isWordChar = true))

theorem isWordChar_of_le {c : Char} (h : 128 ≤ c.toNat) : isWordChar c = true := by
  simp [isWordChar, h]

theorem IsWord.of_mem {cs : List Char} {c : Char} (h : IsWord cs) (hc : c ∈ cs) :
    isWordChar c = true := List.all_eq_true.mp h.2 c hc

theorem IsWord.notMem {cs : List Char} {c : Char} (h : IsWord cs) (hc : isWordChar c = false) :
    c ∉ cs := by
  intro hm
  have := h.of_mem hm
  rw [hc] at this
  cases this

theorem IsWord.append {cs ds : List Char} (hc : IsWord cs) (hd : ∀ c ∈ ds, isWordChar c = true) :
    IsWord (cs ++ ds) := by
  refine ⟨List.append_ne_nil_of_left_ne_nil hc.1 ds, ?_⟩
  rw [List.all_append, hc.2, Bool.true_and]
  exact List.all_eq_true.mpr hd

/-! ## Letter case -/

/-- A fact about the ASCII characters is settled by going through them. -/
theorem of_ascii {p : Char → Prop} (h : ∀ n < 128, p (Char.ofNat n)) {c : Char}
    (hc : c.toNat < 128) : p c := by
  have := h c.toNat hc
  rwa [Char.ofNat_toNat] at this

theorem isWordChar_upper {c : Char} (hc : c.toNat < 128) :
    isWordChar c = true → isWordChar c.toUpper = true :=
  of_ascii (p := fun c => isWordChar c = true → isWordChar c.toUpper = true) (by decide) hc

theorem isWordChar_lower {c : Char} (hc : c.toNat < 128) :
    isWordChar c = true → isWordChar c.toLower = true :=
  of_ascii (p := fun c => isWordChar c = true → isWordChar c.toLower = true) (by decide) hc

theorem toNat_ofNat {n : Nat} (h : n.isValidChar) : (Char.ofNat n).toNat = n := by
  unfold Char.ofNat
  rw [dif_pos h]
  rfl

/-- A run keeps a property that all beyond ASCII has if it stays there and within the valid
characters, or if it holds a single character, which goes to one with the property. -/
def CaseRun.keeps (p : Char → Bool) (r : CaseRun) : Bool :=
  (decide (128 ≤ r.first + r.distance)
    && (decide (r.last + r.distance < 0xD800)
      || decide (0xE000 ≤ r.first + r.distance) && decide (r.last + r.distance < 0x110000)))
  || (r.first == r.last && p (r.apply r.first))

section
variable {p : Char → Bool} (hp : ∀ c : Char, 128 ≤ c.toNat → p c = true)
include hp

theorem CaseRun.of_keeps {r : CaseRun} {code : Nat} (hr : r.keeps p = true)
    (hc : r.covers code = true) : p (r.apply code) = true := by
  simp only [CaseRun.covers, Bool.and_eq_true, decide_eq_true_eq] at hc
  obtain ⟨⟨hlow, hhigh⟩, _⟩ := hc
  simp only [CaseRun.keeps, Bool.or_eq_true, Bool.and_eq_true, decide_eq_true_eq,
    beq_iff_eq] at hr
  rcases hr with ⟨hmin, hvalid⟩ | ⟨hone, happly⟩
  · -- the whole run is moved by one distance, so its ends bound the result
    have hv : (code + r.distance).toNat.isValidChar := by
      unfold Nat.isValidChar
      omega
    apply hp
    unfold CaseRun.apply
    rw [toNat_ofNat hv]
    omega
  · have : code = r.first := by omega
    rw [this]
    exact happly

/-- What a case table makes of a character has a property that its expansions have and its runs
keep. -/
theorem of_mem_mapCase {expansions : List (Nat × List Nat)} {runs : List CaseRun} {c d : Char}
    (he : ∀ e ∈ expansions, ∀ code ∈ e.2, p (Char.ofNat code) = true)
    (hr : ∀ r ∈ runs, r.keeps p = true) (hc : p c = true) (hd : d ∈ mapCase expansions runs c) :
    p d = true := by
  unfold mapCase at hd
  split at hd
  · rename_i codes hl
    obtain ⟨code, hm, rfl⟩ := List.mem_map.mp hd
    obtain ⟨earlier, later, hl, _⟩ := List.lookup_eq_some_iff.mp hl
    exact he (c.toNat, codes) (by simp [hl]) code hm
  · split at hd
    · rename_i r hf
      rw [List.mem_singleton.mp hd]
      have hcovers := List.find?_some hf
      exact CaseRun.of_keeps hp (hr r (List.mem_of_find?_eq_some hf)) hcovers
    · rw [List.mem_singleton.mp hd]
      exact hc

end

/-- A case table with an entry for several characters never has one for none. -/
theorem mapCase_ne_nil {expansions : List (Nat × List Nat)} {runs : List CaseRun}
    (he : ∀ e ∈ expansions, e.2 ≠ []) (c : Char) : mapCase expansions runs c ≠ [] := by
  unfold mapCase
  split
  · rename_i codes hl
    obtain ⟨earlier, later, hl, _⟩ := List.lookup_eq_some_iff.mp hl
    have := he (c.toNat, codes) (by simp [hl])
    simpa using this
  · split <;> exact List.cons_ne_nil _ _

theorem toUpper_ne_nil (c : Char) : toUpper c ≠ [] := by
  unfold toUpper
  split
  · exact List.cons_ne_nil _ _
  · exact mapCase_ne_nil (by decide +kernel) c

theorem toLower_ne_nil (c : Char) : toLower c ≠ [] := by
  unfold toLower
  split
  · exact List.cons_ne_nil _ _
  · exact mapCase_ne_nil (by decide +kernel) c

theorem isWordChar_toUpper {c d : Char} (hc : isWordChar c = true) (hd : d ∈ toUpper c) :
    isWordChar d = true := by
  unfold toUpper at hd
  split at hd
  · rename_i ha
    rw [List.mem_singleton.mp hd]
    exact isWordChar_upper ha hc
  · exact of_mem_mapCase (fun _ => isWordChar_of_le)
      (by decide +kernel : ∀ e ∈ upperExpansions, ∀ code ∈ e.2, isWordChar (Char.ofNat code) = true)
      (by decide +kernel : ∀ r ∈ upperRuns, r.keeps isWordChar = true) hc hd

theorem isWordChar_toLower {c d : Char} (hc : isWordChar c = true) (hd : d ∈ toLower c) :
    isWordChar d = true := by
  unfold toLower at hd
  split at hd
  · rename_i ha
    rw [List.mem_singleton.mp hd]
    exact isWordChar_lower ha hc
  · exact of_mem_mapCase (fun _ => isWordChar_of_le)
      (by decide +kernel : ∀ e ∈ lowerExpansions, ∀ code ∈ e.2, isWordChar (Char.ofNat code) = true)
      (by decide +kernel : ∀ r ∈ lowerRuns, r.keeps isWordChar = true) hc hd

end RecordBean.Text

namespace RecordBean.Name
open RecordBean.Text

/-! ## Identifiers -/

theorem isWordChar_of_isContinuing {c : Char} (h : isContinuing c = true) :
    isWordChar c = true := by
  by_cases ha : c.toNat < 128
  · unfold isContinuing at h
    rw [isAlphanumeric_ascii ha] at h
    unfold isWordChar
    simp only [Bool.or_eq_true] at h ⊢
    rcases h with (h | h) | h
    · exact .inl (.inl (.inr h))
    · exact .inl (.inr h)
    · exact .inr h
  · exact isWordChar_of_le (by omega)

theorem isWord_of_isIdentifier {name : String} (h : isIdentifier name = true) :
    IsWord name.toList := by
  unfold isIdentifier at h
  have hs : hasNameShape name.toList = true := (Bool.and_eq_true_iff.mp h).1
  cases hn : name.toList with
  | nil =>
    rw [hn] at hs
    cases hs
  | cons c rest =>
    rw [hn] at hs
    obtain ⟨hc, hr⟩ := Bool.and_eq_true_iff.mp hs
    refine ⟨List.cons_ne_nil c rest, List.all_eq_true.mpr ?_⟩
    intro d hd
    rcases List.mem_cons.mp hd with rfl | hd
    · exact isWordChar_of_isContinuing (isContinuing_of_isInitial hc)
    · exact isWordChar_of_isContinuing (List.all_eq_true.mp hr d hd)

theorem isWordChar_beanSuffix {c : Char} (h : c ∈ beanSuffix.toList) : isWordChar c = true :=
  List.all_eq_true.mp (by decide : beanSuffix.toList.all isWordChar = true) c h

theorem isWordChar_capitalize {name : String} (h : IsWord name.toList) {c : Char}
    (hc : c ∈ (capitalize name).toList) : isWordChar c = true := by
  unfold capitalize at hc
  rw [String.toList_ofList] at hc
  cases hn : name.toList with
  | nil => exact absurd hn h.1
  | cons d rest =>
    rw [hn] at hc h
    rcases List.mem_append.mp hc with hc | hc
    · exact isWordChar_toUpper (h.of_mem List.mem_cons_self) hc
    · obtain ⟨e, he, hc⟩ := List.mem_flatMap.mp hc
      exact isWordChar_toLower (h.of_mem (List.mem_cons_of_mem d he)) hc

end RecordBean.Name
