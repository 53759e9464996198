import RecordBean.Name

/-! # Qualified names

A name is taken apart at its last dot and put together from a package and a simple name. The simple
part never holds a dot, so the two undo each other and a qualified name determines its parts. The
suffix of a bean keeps names apart and brings no dot in. -/

namespace RecordBean.Name

/-- Whether a name stands without a qualifier. -/
def IsSimple (name : String) : Prop := '.' ∉ name.toList

instance (name : String) : Decidable (IsSimple name) :=
  inferInstanceAs (Decidable ('.' ∉ name.toList))

theorem splitQualified_of_isSimple {name : String} (h : IsSimple name) :
    splitQualified name = (none, name) := by
  unfold splitQualified
  rw [splitAtLast_eq_none.mpr h]

theorem isSimple_of_fst_eq_none {name : String} (h : (splitQualified name).1 = none) :
    IsSimple name := by
  unfold splitQualified at h
  split at h
  · cases h
  · rename_i hs
    exact splitAtLast_eq_none.mp hs

/-- The parts of a name, put together, are the name. -/
theorem qualify_splitQualified (name : String) :
    qualify (splitQualified name).1 (splitQualified name).2 = name := by
  unfold splitQualified
  split
  · rename_i before after hs
    apply String.toList_injective
    simp [qualify, (splitAtLast_eq_some.mp hs).1]
  · rfl

/-- A simple name in a package is taken apart where it was put together. -/
theorem splitQualified_qualify (package : Option String) {simple : String} (h : IsSimple simple) :
    splitQualified (qualify package simple) = (package, simple) := by
  cases package with
  | none => exact splitQualified_of_isSimple h
  | some p =>
    have hs : splitAtLast '.' (qualify (some p) simple).toList = some (p.toList, simple.toList) :=
      splitAtLast_eq_some.mpr ⟨by simp [qualify], h⟩
    unfold splitQualified
    rw [hs]
    simp

theorem isSimple_splitQualified (name : String) : IsSimple (splitQualified name).2 := by
  unfold splitQualified
  split
  · rename_i before after hs
    have hafter := (splitAtLast_eq_some.mp hs).2
    simpa [IsSimple] using hafter
  · rename_i hs
    exact splitAtLast_eq_none.mp hs

/-- What stands before the last dot of a name, if it has one. -/
theorem fst_splitQualified_eq_some_iff {name derived : String} :
    (splitQualified name).1 = some derived ↔
      ∃ simple, IsSimple simple ∧ name = qualify (some derived) simple := by
  constructor
  · intro hd
    refine ⟨(splitQualified name).2, isSimple_splitQualified name, ?_⟩
    rw [← hd]
    exact (qualify_splitQualified name).symm
  · rintro ⟨simple, hs, rfl⟩
    rw [splitQualified_qualify (some derived) hs]

theorem qualify_eq_iff {p q : Option String} {s t : String} (hs : IsSimple s) (ht : IsSimple t) :
    qualify p s = qualify q t ↔ p = q ∧ s = t := by
  constructor
  · intro h
    have hp := congrArg splitQualified h
    rw [splitQualified_qualify p hs, splitQualified_qualify q ht] at hp
    exact Prod.mk.inj hp
  · rintro ⟨rfl, rfl⟩
    rfl

theorem companion_eq_iff {a b : String} : companion a = companion b ↔ a = b :=
  String.append_left_inj beanSuffix

theorem IsSimple.companion {name : String} (h : IsSimple name) : IsSimple (companion name) := by
  have hs : '.' ∉ beanSuffix.toList := by decide
  unfold IsSimple Name.companion
  rw [String.toList_append, List.mem_append]
  exact not_or.mpr ⟨h, hs⟩

end RecordBean.Name
