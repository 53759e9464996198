import Mathlib.Data.List.Basic
import RecordBean.Path

/-! # Texts in pieces

A text is taken apart at every occurrence of a character. No piece holds the character, the pieces
joined again are the text, and pieces that were joined come out as they went in; so a text
determines its pieces and the pieces determine the text. -/

namespace RecordBean.Path
open RecordBean.Text

/-! ## Characters -/

theorem splitChars_ne_nil (separator : Char) (cs : List Char) : splitChars separator cs ≠ [] := by
  cases cs with
  | nil => simp [splitChars]
  | cons c cs =>
    rw [splitChars]
    split
    · simp
    · split <;> simp

/-- The separator between two texts ends the last piece of the one and begins the first piece of the
other. -/
theorem splitChars_append (separator : Char) (a b : List Char) :
    splitChars separator (a ++ separator :: b) =
      splitChars separator a ++ splitChars separator b := by
  induction a with
  | nil => simp [splitChars]
  | cons c a ih =>
    rw [List.cons_append, splitChars, splitChars]
    by_cases hc : c = separator
    · rw [if_pos hc, if_pos hc, ih]
      rfl
    · rw [if_neg hc, if_neg hc, ih]
      cases hs : splitChars separator a with
      | nil => exact absurd hs (splitChars_ne_nil separator a)
      | cons piece pieces => rfl

theorem splitChars_of_notMem {separator : Char} {cs : List Char} (h : separator ∉ cs) :
    splitChars separator cs = [cs] := by
  induction cs with
  | nil => rfl
  | cons c cs ih =>
    obtain ⟨hc, hcs⟩ := not_or.mp (List.mem_cons.not.mp h)
    rw [splitChars, if_neg (Ne.symm hc), ih hcs]

theorem notMem_of_mem_splitChars {separator : Char} {cs piece : List Char}
    (h : piece ∈ splitChars separator cs) : separator ∉ piece := by
  induction cs generalizing piece with
  | nil =>
    rw [List.mem_singleton.mp h]
    exact List.not_mem_nil
  | cons c cs ih =>
    rw [splitChars] at h
    split at h
    · rcases List.mem_cons.mp h with rfl | h
      · exact List.not_mem_nil
      · exact ih h
    · rename_i hc
      split at h
      · rename_i hs
        exact absurd hs (splitChars_ne_nil separator cs)
      · rename_i first pieces hs
        rw [hs] at ih
        rcases List.mem_cons.mp h with rfl | h
        · rw [List.mem_cons, not_or]
          exact ⟨Ne.symm hc, ih List.mem_cons_self⟩
        · exact ih (List.mem_cons_of_mem first h)

theorem mem_of_mem_splitChars {separator c : Char} {cs piece : List Char}
    (h : piece ∈ splitChars separator cs) (hc : c ∈ piece) : c ∈ cs := by
  induction cs generalizing piece with
  | nil =>
    rw [List.mem_singleton.mp h] at hc
    exact hc
  | cons d cs ih =>
    rw [splitChars] at h
    split at h
    · rcases List.mem_cons.mp h with rfl | h
      · cases hc
      · exact List.mem_cons_of_mem d (ih h hc)
    · split at h
      · rename_i hs
        exact absurd hs (splitChars_ne_nil separator cs)
      · rename_i first pieces hs
        rw [hs] at ih
        rcases List.mem_cons.mp h with rfl | h
        · rcases List.mem_cons.mp hc with rfl | hc
          · exact List.mem_cons_self
          · exact List.mem_cons_of_mem d (ih List.mem_cons_self hc)
        · exact List.mem_cons_of_mem d (ih (List.mem_cons_of_mem first h) hc)

/-- Every character but the separator stands in some piece. -/
theorem mem_splitChars {separator c : Char} {cs : List Char} (h : c ∈ cs) (hc : c ≠ separator) :
    ∃ piece ∈ splitChars separator cs, c ∈ piece := by
  induction cs with
  | nil => cases h
  | cons d cs ih =>
    rw [splitChars]
    split
    · rename_i hd
      have hm : c ∈ cs := by
        rcases List.mem_cons.mp h with rfl | hm
        · exact absurd hd hc
        · exact hm
      obtain ⟨piece, hp, hcp⟩ := ih hm
      exact ⟨piece, List.mem_cons_of_mem [] hp, hcp⟩
    · rcases List.mem_cons.mp h with rfl | hm
      · split
        · exact ⟨[c], List.mem_cons_self, List.mem_cons_self⟩
        · rename_i piece pieces _
          exact ⟨c :: piece, List.mem_cons_self, List.mem_cons_self⟩
      · obtain ⟨p, hp, hcp⟩ := ih hm
        split
        · rename_i hnil
          rw [hnil] at hp
          cases hp
        · rename_i piece pieces hsome
          rw [hsome] at hp
          rcases List.mem_cons.mp hp with rfl | hp
          · exact ⟨d :: p, List.mem_cons_self, List.mem_cons_of_mem d hcp⟩
          · exact ⟨p, List.mem_cons_of_mem _ hp, hcp⟩

/-! ## Texts -/

theorem split_ne_nil (separator : Char) (text : String) : split separator text ≠ [] := by
  unfold split
  rw [Ne, List.map_eq_nil_iff]
  exact splitChars_ne_nil separator text.toList

theorem split_append {separator : Char} {text a b : String}
    (h : text.toList = a.toList ++ separator :: b.toList) :
    split separator text = split separator a ++ split separator b := by
  unfold split
  rw [h, splitChars_append, List.map_append]

theorem split_of_notMem {separator : Char} {text : String} (h : separator ∉ text.toList) :
    split separator text = [text] := by
  unfold split
  rw [splitChars_of_notMem h, List.map_singleton, String.ofList_toList]

theorem notMem_of_mem_split {separator : Char} {text piece : String}
    (h : piece ∈ split separator text) : separator ∉ piece.toList := by
  obtain ⟨cs, hcs, rfl⟩ := List.mem_map.mp h
  rw [String.toList_ofList]
  exact notMem_of_mem_splitChars hcs

theorem mem_of_mem_split {separator c : Char} {text piece : String}
    (h : piece ∈ split separator text) (hc : c ∈ piece.toList) : c ∈ text.toList := by
  obtain ⟨cs, hcs, rfl⟩ := List.mem_map.mp h
  rw [String.toList_ofList] at hc
  exact mem_of_mem_splitChars hcs hc

theorem toList_joined_append {separator : String} {a b : List String} (ha : a ≠ []) (hb : b ≠ []) :
    (joined separator (a ++ b)).toList =
      (joined separator a).toList ++ separator.toList ++ (joined separator b).toList := by
  induction a with
  | nil => exact absurd rfl ha
  | cons s a ih =>
    cases a with
    | nil =>
      obtain ⟨t, b, rfl⟩ := List.exists_cons_of_ne_nil hb
      simp [joined]
    | cons t a =>
      have hr := ih (List.cons_ne_nil t a)
      rw [List.cons_append, List.cons_append, joined, joined, String.toList_append,
        ← List.cons_append, hr]
      simp

theorem toList_joined_cons (separator : String) (c : Char) (piece : List Char)
    (pieces : List String) :
    (joined separator (String.ofList (c :: piece) :: pieces)).toList =
      c :: (joined separator (String.ofList piece :: pieces)).toList := by
  cases pieces with
  | nil => simp [joined]
  | cons q pieces => simp [joined]

/-- The pieces of a text with something else between them: every separator is replaced. -/
theorem toList_joined_split (separator : Char) (between text : String) :
    (joined between (split separator text)).toList =
      text.toList.flatMap fun c => if c = separator then between.toList else [c] := by
  unfold split
  induction text.toList with
  | nil => rfl
  | cons c cs ih =>
    have hne : (splitChars separator cs).map String.ofList ≠ [] :=
      List.map_eq_nil_iff.not.mpr (splitChars_ne_nil separator cs)
    rw [splitChars, List.flatMap_cons]
    by_cases hc : c = separator
    · have hempty : (joined between [String.ofList []]).toList = [] := rfl
      rw [if_pos hc, if_pos hc, List.map_cons, ← List.singleton_append,
        toList_joined_append (List.cons_ne_nil _ _) hne, ih, hempty]
      rfl
    · rw [if_neg hc, if_neg hc]
      cases hp : splitChars separator cs with
      | nil => exact absurd hp (splitChars_ne_nil separator cs)
      | cons piece pieces =>
        rw [hp, List.map_cons] at ih
        rw [List.map_cons, toList_joined_cons, ih]
        rfl

/-- The pieces of a text give it back. -/
theorem joined_split {separator : Char} {between : String} (hs : between.toList = [separator])
    (text : String) : joined between (split separator text) = text := by
  apply String.toList_injective
  have hself : ∀ c, (if c = separator then between.toList else [c]) = [c] := by
    intro c
    by_cases hc : c = separator
    · rw [if_pos hc, hs, hc]
    · rw [if_neg hc]
  rw [toList_joined_split]
  simp only [hself, List.flatMap_singleton']

/-- Pieces without the separator come back. -/
theorem split_joined {separator : Char} {between : String} (hs : between.toList = [separator])
    {pieces : List String} (hne : pieces ≠ []) (hp : ∀ p ∈ pieces, separator ∉ p.toList) :
    split separator (joined between pieces) = pieces := by
  induction pieces with
  | nil => exact absurd rfl hne
  | cons p pieces ih =>
    have hfirst := split_of_notMem (hp p List.mem_cons_self)
    cases pieces with
    | nil => exact hfirst
    | cons q pieces =>
      have hrest := ih (List.cons_ne_nil q pieces) fun r hr => hp r (List.mem_cons_of_mem p hr)
      have hlist : (joined between (p :: q :: pieces)).toList =
          p.toList ++ separator :: (joined between (q :: pieces)).toList := by
        simp [joined, hs]
      rw [split_append hlist, hfirst, hrest]
      rfl

end RecordBean.Path
