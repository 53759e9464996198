import Mathlib.Data.List.Nodup
import RecordBean.SourceFile

/-! # What rendering accepts

A schema is rendered with its own members exactly if its names are fit: the simple name and every
field name is an identifier, and no two fields have the same accessor suffix. The text then is the
printed layout. -/

namespace RecordBean.SourceFile

/-- Field names that can stand in one class. -/
structure AreNamed (fields : List Field) : Prop where
  identifiers : ∀ f ∈ fields, Name.isIdentifier f.name = true
  distinct : (fields.map (·.capName)).Nodup

/-- Fields of one name would have one suffix. -/
theorem AreNamed.nodup_names {fields : List Field} (h : AreNamed fields) :
    (fields.map (·.name)).Nodup := by
  have hd : ((fields.map (·.name)).map Name.capitalize).Nodup := by
    rw [List.map_map]
    exact h.distinct
  exact List.Nodup.of_map Name.capitalize hd

theorem getter_eq_iff {f g : Field} : f.getter = g.getter ↔ f.capName = g.capName := by
  unfold Field.getter
  rw [← String.toList_inj, String.toList_append, String.toList_append, List.append_cancel_left_eq,
    String.toList_inj]

theorem setter_eq_iff {f g : Field} : f.setter = g.setter ↔ f.capName = g.capName := by
  unfold Field.setter
  rw [← String.toList_inj, String.toList_append, String.toList_append, List.append_cancel_left_eq,
    String.toList_inj]

theorem getter_ne_setter (f g : Field) : f.getter ≠ g.setter := by
  intro he
  have := congrArg (·.toList.head?) he
  simp [Field.getter, Field.setter] at this

theorem AreNamed.nodup_getters {fields : List Field} (h : AreNamed fields) :
    (fields.map (·.getter)).Nodup := by
  refine List.pairwise_map.mpr ((List.pairwise_map.mp h.distinct).imp ?_)
  intro f g hne he
  exact hne (getter_eq_iff.mp he)

/-- Getters and setters together have distinct names. -/
theorem AreNamed.nodup_accessors {fields : List Field} (h : AreNamed fields) :
    (fields.flatMap fun f => [f.getter, f.setter]).Nodup := by
  rw [List.nodup_flatMap]
  constructor
  · intro f _
    simp [getter_ne_setter]
  · refine (List.pairwise_map.mp h.distinct).imp ?_
    intro f g hne name hf hg
    simp only [List.mem_cons, List.not_mem_nil, or_false] at hf hg
    rcases hf with rfl | rfl <;> rcases hg with he | he
    · exact hne (getter_eq_iff.mp he)
    · exact getter_ne_setter f g he
    · exact getter_ne_setter g f he.symm
    · exact hne (setter_eq_iff.mp he)

theorem areNamed_cons {f : Field} {rest : List Field} :
    AreNamed (f :: rest) ↔ Name.isIdentifier f.name = true ∧
      (∀ g ∈ rest, g.capName ≠ f.capName) ∧ AreNamed rest := by
  have hfresh : f.capName ∉ rest.map (·.capName) ↔ ∀ g ∈ rest, g.capName ≠ f.capName := by
    simp [List.mem_map]
  constructor
  · rintro ⟨hi, hd⟩
    rw [List.forall_mem_cons] at hi
    rw [List.map_cons, List.nodup_cons, hfresh] at hd
    exact ⟨hi.1, hd.1, hi.2, hd.2⟩
  · rintro ⟨hf, hn, hi, hd⟩
    constructor
    · rw [List.forall_mem_cons]
      exact ⟨hf, hi⟩
    · rw [List.map_cons, List.nodup_cons, hfresh]
      exact ⟨hn, hd⟩

theorem find?_capName_eq_none_iff (earlier : List Field) (f : Field) :
    earlier.find? (·.capName == f.capName) = none ↔ ∀ g ∈ earlier, g.capName ≠ f.capName := by
  simp [List.find?_eq_none]

theorem checkFields_eq_ok_iff {earlier fields : List Field} :
    checkFields earlier fields = .ok () ↔
      AreNamed fields ∧ ∀ f ∈ fields, ∀ g ∈ earlier, g.capName ≠ f.capName := by
  induction fields generalizing earlier with
  | nil => exact ⟨fun _ => ⟨⟨by simp, List.nodup_nil⟩, by simp⟩, fun _ => rfl⟩
  | cons f rest ih =>
    rw [areNamed_cons, List.forall_mem_cons, ← find?_capName_eq_none_iff earlier f, checkFields]
    by_cases hi : Name.isIdentifier f.name = true
    · rw [if_pos hi]
      cases hf : earlier.find? (·.capName == f.capName) with
      | some g => simp
      | none =>
        simp only [ih, hi, true_and]
        -- the field itself is one of the earlier ones for the rest
        constructor
        · rintro ⟨hn, he⟩
          refine ⟨⟨fun g hg => ?_, hn⟩, fun g hg k hk => he g hg k (List.mem_append_left _ hk)⟩
          exact Ne.symm (he g hg f (List.mem_append_right _ List.mem_cons_self))
        · rintro ⟨⟨hf, hn⟩, he⟩
          refine ⟨hn, fun g hg k hk => ?_⟩
          rcases List.mem_append.mp hk with hk | hk
          · exact he g hg k hk
          · rw [List.mem_singleton.mp hk]
            exact Ne.symm (hf g hg)
    · rw [if_neg hi]
      simp [hi]

theorem check_of_eq_ok_iff {s : Schema} :
    check s (Members.of s) = .ok () ↔
      Name.isIdentifier s.simpleName = true ∧ AreNamed s.fields := by
  unfold check
  rw [if_pos (Members.beanName_of s)]
  split
  · rename_i hi
    rw [checkFields_eq_ok_iff]
    simp [hi]
  · rename_i hi
    simp [hi]

/-- A schema is rendered exactly if its names pass. -/
theorem exists_renderOwn_iff {s : Schema} {header : String} :
    (∃ text, renderOwn s header = .ok text) ↔
      Name.isIdentifier s.simpleName = true ∧ AreNamed s.fields := by
  rw [← check_of_eq_ok_iff]
  unfold renderOwn render assemble
  cases check s (Members.of s) with
  | ok => simp [Except.map]
  | error e => simp [Except.map]

end RecordBean.SourceFile
