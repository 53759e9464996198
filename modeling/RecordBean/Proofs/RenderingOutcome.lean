import RecordBean.Generation
import RecordBean.Proofs.FirstFault
import RecordBean.Proofs.Rendering

/-! # What rendering comes to

Which error rendering ends in can be said without going through the fields one by one: the name of
the bean is looked at first, then the simple name, then the first field that is no identifier or has
the accessor suffix of a field in front of it. Up to that field all suffixes differ, so exactly one
field in front of it has the suffix. The text itself can always be put together. In a pass, where
every schema is rendered with its own members, the name of the bean always fits. -/

namespace RecordBean.RenderingOutcome
open RecordBean.SourceFile RecordBean.FirstFault RecordBean.Generation

/-! ## Fields -/

/-- Whether a field is no identifier or has the accessor suffix of one in front of it. -/
def IsFaulty (front : List Field) (f : Field) : Prop :=
  Name.isIdentifier f.name = false ∨ ∃ g ∈ front, g.capName = f.capName

/-- What is said about a field behind others. -/
def fault? (front : List Field) (f : Field) : Option RenderError :=
  if Name.isIdentifier f.name then
    (front.find? (·.capName == f.capName)).map fun g => .accessorClash g.name f.name f.capName
  else some (.invalidIdentifier f.name)

theorem isFaulty_iff (front : List Field) (f : Field) :
    IsFaulty front f ↔ fault? front f ≠ none := by
  rw [IsFaulty, fault?]
  split
  · rename_i hi
    simp [hi, List.find?_eq_none]
  · rename_i hi
    simp [hi]

theorem scans_checkFields : Scans IsFaulty fault? checkFields where
  faulty_iff := isFaulty_iff
  done _ := rfl
  next front f rest := by
    rw [checkFields, fault?]
    split
    · cases front.find? (·.capName == f.capName) with
      | none => rfl
      | some g => rfl
    · rfl

theorem areNamed_of_isFaultless {fields : List Field} (h : IsFaultless IsFaulty fields) :
    AreNamed fields := (checkFields_eq_ok_iff.mp (scans_checkFields.eq_ok_iff.mpr h)).1

/-- Among fields with distinct suffixes, the one found by its suffix is the only one that has it. -/
theorem find?_eq_some_iff_filter {front : List Field} (h : AreNamed front) {f g : Field} :
    front.find? (·.capName == f.capName) = some g ↔
      front.filter (·.capName == f.capName) = [g] := by
  induction front with
  | nil => simp
  | cons k rest ih =>
    obtain ⟨-, hfresh, hrest⟩ := areNamed_cons.mp h
    by_cases hk : k.capName = f.capName
    · have hnone : rest.filter (·.capName == f.capName) = [] := by
        rw [List.filter_eq_nil_iff]
        intro j hj
        simpa [hk] using hfresh j hj
      simp [hk, hnone]
    · simp [hk, ih hrest]

theorem fault?_eq_invalid_iff {front : List Field} {f : Field} {name : String} :
    fault? front f = some (.invalidIdentifier name) ↔
      Name.isIdentifier f.name = false ∧ name = f.name := by
  rw [fault?]
  split
  · rename_i hi
    simp [hi]
  · rename_i hi
    simp [hi, eq_comm]

theorem fault?_eq_clash_iff {front : List Field} (h : AreNamed front) {f : Field}
    {first second capName : String} :
    fault? front f = some (.accessorClash first second capName) ↔
      Name.isIdentifier f.name = true ∧ ∃ g, front.filter (·.capName == f.capName) = [g] ∧
        first = g.name ∧ second = f.name ∧ capName = f.capName := by
  rw [fault?]
  split
  · rename_i hi
    simp only [hi, true_and, Option.map_eq_some_iff, find?_eq_some_iff_filter h,
      RenderError.accessorClash.injEq]
    exact exists_congr fun g => and_congr_right fun _ => by simp only [eq_comm]
  · rename_i hi
    simp [hi]

/-- Fields have no other faults. -/
theorem fault?_cases {front : List Field} {f : Field} {e : RenderError}
    (h : fault? front f = some e) :
    e = .invalidIdentifier f.name ∨ ∃ g : Field, e = .accessorClash g.name f.name f.capName := by
  unfold fault? at h
  split at h
  · obtain ⟨g, -, rfl⟩ := Option.map_eq_some_iff.mp h
    exact Or.inr ⟨g, rfl⟩
  · exact Or.inl (Option.some.inj h).symm

/-! ## The outcome -/

/-- Whether the fields are looked at: the members belong to the bean of the schema, and its simple
name is an identifier. -/
def IsFit (s : Schema) (m : Members) : Prop :=
  m.beanName = s.beanName ∧ Name.isIdentifier s.simpleName = true

/-- What has to be true of a schema and of members for each error of rendering. -/
def Refuses (s : Schema) (m : Members) : RenderError → Prop
  | .memberMismatch expected actual =>
    m.beanName ≠ s.beanName ∧ expected = s.beanName ∧ actual = m.beanName
  | .invalidIdentifier name =>
    m.beanName = s.beanName ∧ Name.isIdentifier s.simpleName = false ∧ name = s.simpleName ∨
    IsFit s m ∧ ∃ front f, IsFirst IsFaulty s.fields front f ∧
      Name.isIdentifier f.name = false ∧ name = f.name
  | .accessorClash first second capName =>
    IsFit s m ∧ ∃ front f, IsFirst IsFaulty s.fields front f ∧
      Name.isIdentifier f.name = true ∧ ∃ g, front.filter (·.capName == f.capName) = [g] ∧
        first = g.name ∧ second = f.name ∧ capName = f.capName
  | .unprintable => False

section
variable {s : Schema} {m : Members}

/-- The three ways in which the check of a schema can end, by the steps that decide. -/
theorem check_cases (s : Schema) (m : Members) :
    (m.beanName ≠ s.beanName ∧ check s m = .error (.memberMismatch s.beanName m.beanName)) ∨
    (m.beanName = s.beanName ∧ Name.isIdentifier s.simpleName = false ∧
      check s m = .error (.invalidIdentifier s.simpleName)) ∨
    (IsFit s m ∧ check s m = checkFields [] s.fields) := by
  unfold check
  split
  · rename_i hb
    refine Or.inr ?_
    split
    · rename_i hi
      exact Or.inr ⟨⟨hb, hi⟩, rfl⟩
    · rename_i hi
      exact Or.inl ⟨hb, by simpa using hi, rfl⟩
  · rename_i hb
    exact Or.inl ⟨hb, rfl⟩

/-- Behind the first two steps, the fields decide about the error. -/
theorem refuses_iff_of_isFit (hf : IsFit s m) {e : RenderError} :
    Refuses s m e ↔ checkFields [] s.fields = .error e := by
  rw [scans_checkFields.eq_error_iff]
  cases e with
  | memberMismatch expected actual =>
    refine iff_of_false (fun hr => hr.1 hf.1) ?_
    rintro ⟨front, f, -, he⟩
    rcases fault?_cases he with he | ⟨g, he⟩ <;> cases he
  | unprintable =>
    refine iff_of_false id ?_
    rintro ⟨front, f, -, he⟩
    rcases fault?_cases he with he | ⟨g, he⟩ <;> cases he
  | invalidIdentifier name =>
    simp only [Refuses, hf, hf.2, true_and, fault?_eq_invalid_iff]
    simp
  | accessorClash first second capName =>
    simp only [Refuses, hf, true_and]
    refine exists_congr fun front => exists_congr fun f => and_congr_right fun hfirst => ?_
    exact (fault?_eq_clash_iff (areNamed_of_isFaultless hfirst.sound)).symm

theorem not_isFit_of_isIdentifier_eq_false (hi : Name.isIdentifier s.simpleName = false) :
    ¬ IsFit s m := by
  rintro ⟨-, ht⟩
  rw [hi] at ht
  cases ht

theorem check_eq_error_iff {e : RenderError} : check s m = .error e ↔ Refuses s m e := by
  rcases check_cases s m with ⟨hb, hc⟩ | ⟨hb, hi, hc⟩ | ⟨hf, hc⟩
  · have hfit : ¬ IsFit s m := fun hf => hb hf.1
    rw [hc, Except.error.injEq]
    cases e with
    | memberMismatch expected actual =>
      simp only [RenderError.memberMismatch.injEq, Refuses, ne_eq, hb, not_false_eq_true, true_and,
        eq_comm]
    | invalidIdentifier name => exact iff_of_false (by simp) (by simp [Refuses, hb, hfit])
    | accessorClash => exact iff_of_false (by simp) fun hr => hfit hr.1
    | unprintable => exact iff_of_false (by simp) id
  · have hfit : ¬ IsFit s m := not_isFit_of_isIdentifier_eq_false hi
    rw [hc, Except.error.injEq]
    cases e with
    | memberMismatch expected actual => exact iff_of_false (by simp) fun hr => hr.1 hb
    | invalidIdentifier name =>
      simp only [RenderError.invalidIdentifier.injEq, Refuses, hb, hi, hfit, true_and, false_and,
        or_false]
      exact eq_comm
    | accessorClash => exact iff_of_false (by simp) fun hr => hfit hr.1
    | unprintable => exact iff_of_false (by simp) id
  · rw [hc, refuses_iff_of_isFit hf]

theorem check_eq_ok_iff : check s m = .ok () ↔ IsFit s m ∧ IsFaultless IsFaulty s.fields := by
  rw [← scans_checkFields.eq_ok_iff]
  rcases check_cases s m with ⟨hb, hc⟩ | ⟨hb, hi, hc⟩ | ⟨hf, hc⟩
  · rw [hc]
    exact iff_of_false (by simp) fun hf => hb hf.1.1
  · rw [hc]
    exact iff_of_false (by simp) fun hf => not_isFit_of_isIdentifier_eq_false hi hf.1
  · rw [hc, and_iff_right hf]

/-- Only the check can fail, and whatever passes it is printed. -/
theorem render_eq (s : Schema) (m : Members) (header : String) :
    (∃ text, check s m = .ok () ∧ render s m header = .ok text) ∨
    (∃ e, check s m = .error e ∧ render s m header = .error e) := by
  unfold render assemble
  cases check s m with
  | ok => exact Or.inl ⟨_, rfl, rfl⟩
  | error e => exact Or.inr ⟨e, rfl, rfl⟩

theorem render_eq_error_iff {header : String} {e : RenderError} :
    render s m header = .error e ↔ Refuses s m e := by
  rw [← check_eq_error_iff]
  rcases render_eq s m header with ⟨text, hc, hr⟩ | ⟨e', hc, hr⟩
  · rw [hc, hr]
    exact iff_of_false (by simp) (by simp)
  · rw [hc, hr, Except.error.injEq, Except.error.injEq]

theorem exists_render_iff {header : String} :
    (∃ text, render s m header = .ok text) ↔ IsFit s m ∧ IsFaultless IsFaulty s.fields := by
  rw [← check_eq_ok_iff]
  rcases render_eq s m header with ⟨text, hc, hr⟩ | ⟨e, hc, hr⟩
  · exact iff_of_true ⟨text, hr⟩ hc
  · rw [hc, hr]
    exact iff_of_false (by simp) (by simp)

end

/-- In a pass, an error of rendering is one of the schema with its own members. -/
theorem refuses_of_attempt {σ : Type} {sink : Sink σ} {catalog : Catalog} {settings : Settings}
    {h : HostType} {w : Workplace σ} {e : RenderError}
    (he : (attempt sink catalog settings h w).1 = .error (.render e)) :
    ∃ s, Refuses s (Members.of s) e := by
  unfold attempt at he
  split at he
  · cases he
  · rename_i s _
    unfold finish prepare at he
    cases hr : renderOwn s settings.header with
    | error e' =>
      rw [hr] at he
      cases he
      exact ⟨s, render_eq_error_iff.mp hr⟩
    | ok text =>
      rw [hr] at he
      simp only [Except.map] at he
      split at he <;> cases he

/-- Rendering fails with exactly the error whose condition is met, and it succeeds if the members
belong to the bean, its name is an identifier and no field has a fault. A text is always put
together, and no pass meets members of another bean. -/
theorem render_outcome (s : Schema) (m : Members) (header : String) :
    (∀ e, render s m header = .error e ↔ Refuses s m e) ∧
    ((∃ text, render s m header = .ok text) ↔ IsFit s m ∧ IsFaultless IsFaulty s.fields) ∧
    ∀ (σ : Type) (sink : Sink σ) (catalog : Catalog) (settings : Settings) (h : HostType)
      (w : Workplace σ), (attempt sink catalog settings h w).1 ≠ .error (.render .unprintable) ∧
        ∀ expected actual, (attempt sink catalog settings h w).1 ≠
          .error (.render (.memberMismatch expected actual)) := by
  refine ⟨fun e => render_eq_error_iff, exists_render_iff, ?_⟩
  intro σ sink catalog settings h w
  constructor
  · intro he
    obtain ⟨own, hr⟩ := refuses_of_attempt he
    exact hr
  · intro expected actual he
    obtain ⟨own, hr⟩ := refuses_of_attempt he
    exact hr.1 (Members.beanName_of own)

end RecordBean.RenderingOutcome
