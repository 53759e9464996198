import RecordBean.Proofs.Placement

/-! # References between beans

A component whose type is a record with a bean is stored under the type text with the suffix of
beans. Such a text is read as a qualified name, or as a name inside the package of the bean that it
stands in. It meets the bean of the record that the component was resolved to, unless the record is
bare and its bean is put into a package other than the one where the text stands. -/

namespace RecordBean.Reference
open RecordBean.Name RecordBean.Extraction RecordBean.Generation RecordBean.Placement

/-- Whether a type text that stands in a package can be read as a qualified name. -/
def Means (package : Option String) (type name : String) : Prop :=
  name = type ∨ name = qualify package type

instance (package : Option String) (type name : String) : Decidable (Means package type name) :=
  inferInstanceAs (Decidable (_ ∨ _))

/-- Whether a text is the bare name of a type whose bean is put into another package than the one
where the text stands. -/
def LiesElsewhere (settings : Settings) (package : Option String) (type : String)
    (target : HostType) : Prop :=
  target.name = type ∧ IsSimple type ∧
    packageOf settings target ≠ none ∧ packageOf settings target ≠ package

instance (settings : Settings) (package : Option String) (type : String) (target : HostType) :
    Decidable (LiesElsewhere settings package type target) :=
  inferInstanceAs (Decidable (_ ∧ _))

/-! ## Resolution -/

/-- Whether a type text means a type of the catalog: the one that bears it as its name, or, if none
does, the one that bears it behind the package. -/
structure IsMeant (catalog : Catalog) (package : Option String) (type : String)
    (target : HostType) : Prop where
  listed : target ∈ catalog.types
  named : target.name = type ∨
    (∀ other ∈ catalog.types, other.name ≠ type) ∧
      ∃ p, package = some p ∧ target.name = p ++ "." ++ type

theorem get?_eq_none_iff {catalog : Catalog} {name : String} :
    catalog.get? name = none ↔ ∀ other ∈ catalog.types, other.name ≠ name := by
  simp [Catalog.get?, List.find?_eq_none]

theorem resolve?_eq_some_iff {catalog : Catalog} {package : Option String} {type : String}
    {target : HostType} :
    catalog.resolve? type package = some target ↔ IsMeant catalog package type target := by
  unfold Catalog.resolve?
  cases hg : catalog.get? type with
  | some first =>
    obtain ⟨hm, hn⟩ := get?_eq_some_iff.mp hg
    rw [Option.some.injEq]
    constructor
    · rintro rfl
      exact ⟨hm, Or.inl hn⟩
    · rintro ⟨ht, hname | ⟨hnone, -⟩⟩
      · exact eq_of_name_eq hm ht (hn.trans hname.symm)
      · exact absurd hn (hnone first hm)
  | none =>
    have hnone := get?_eq_none_iff.mp hg
    cases package with
    | none =>
      refine iff_of_false (by simp) ?_
      rintro ⟨ht, hname | ⟨-, p, hp, -⟩⟩
      · exact hnone target ht hname
      · cases hp
    | some p =>
      change catalog.get? (qualify (some p) type) = some target ↔ _
      rw [get?_eq_some_iff]
      constructor
      · rintro ⟨ht, hname⟩
        exact ⟨ht, Or.inr ⟨hnone, p, rfl, hname⟩⟩
      · rintro ⟨ht, hname | ⟨-, q, hq, hname⟩⟩
        · exact absurd hname (hnone target ht)
        · rw [Option.some.inj hq]
          exact ⟨ht, hname⟩

/-- A text resolves to a type of that name, or to one of that name inside the package. -/
theorem resolve?_eq_some {catalog : Catalog} {type : String} {package : Option String}
    {target : HostType} (hr : catalog.resolve? type package = some target) :
    target ∈ catalog.types ∧
      (target.name = type ∨ ∃ p, package = some p ∧ target.name = qualify (some p) type) := by
  obtain ⟨hm, hn⟩ := resolve?_eq_some_iff.mp hr
  exact ⟨hm, hn.imp_right And.right⟩

/-- A name with a package in front is never bare. -/
theorem not_isSimple_qualify (p name : String) : ¬ IsSimple (qualify (some p) name) := by
  simp [IsSimple, qualify]

/-- What a nested field was resolved to is a marked record. -/
theorem exists_target {catalog : Catalog} {settings : Settings} {h : HostType} {s : Schema}
    (hs : extract catalog settings h = .ok s) {f : Field} (hf : f ∈ s.fields)
    (hn : f.isNested = true) :
    ∃ target ∈ catalog.eligible, catalog.resolve? f.declaredType s.packageName = some target := by
  rw [extract_eq_schemaOf hs] at hf ⊢
  obtain ⟨c, -, rfl⟩ := List.mem_map.mp hf
  change (catalog.resolve? c.type (packageOf settings h)).any HostType.hasBean = true at hn
  change ∃ target ∈ catalog.eligible, catalog.resolve? c.type (packageOf settings h) = some target
  cases hr : catalog.resolve? c.type (packageOf settings h) with
  | none =>
    rw [hr] at hn
    cases hn
  | some target =>
    rw [hr, Option.any_some] at hn
    have hmarked : target.isMarked = true := (Bool.and_eq_true_iff.mp hn).2
    exact ⟨target, List.mem_filter.mpr ⟨(resolve?_eq_some hr).1, hmarked⟩, rfl⟩

/-! ## Meeting the bean -/

/-- The suffix of beans changes nothing in how a text is read. -/
theorem means_companion_iff {package : Option String} {type name : String} :
    Means package (companion type) (companion name) ↔ Means package type name := by
  unfold Means
  rw [qualify_companion, companion_eq_iff, companion_eq_iff]

/-- A bare name is read as the name inside a package exactly if there is no package, or if it is the
one where the text stands. -/
theorem means_qualify_iff {package target : Option String} {type : String} (h : IsSimple type) :
    Means package type (qualify target type) ↔ target = none ∨ target = package := by
  have hpackage (p : Option String) : qualify target type = qualify p type ↔ target = p := by
    rw [qualify_eq_iff h h]
    exact and_iff_left rfl
  have hnone : qualify target type = type ↔ target = none := hpackage none
  unfold Means
  rw [hnone, hpackage]

theorem means_placeOf_iff {catalog : Catalog} {settings : Settings} {type : String}
    {package : Option String} {target : HostType}
    (hr : catalog.resolve? type package = some target) (hc : packageConflict? target = none) :
    Means package type (placeOf settings target) ↔
      ¬ LiesElsewhere settings package type target := by
  have hname := (resolve?_eq_some hr).2
  by_cases hb : IsSimple target.name
  · have ht : target.name = type := by
      rcases hname with ht | ⟨p, -, hp⟩
      · exact ht
      · rw [hp] at hb
        exact absurd hb (not_isSimple_qualify p type)
    have hs : IsSimple type := ht ▸ hb
    have hplace : placeOf settings target = qualify (packageOf settings target) type := by
      unfold placeOf
      rw [splitQualified_of_isSimple hb, ht]
    rw [hplace, means_qualify_iff hs]
    unfold LiesElsewhere
    simp only [ht, hs, true_and, not_and_or, not_not]
  · -- a qualified record keeps its name, under which it was found
    have hmeans : Means package type target.name := by
      rcases hname with ht | ⟨p, hp, ht⟩
      · exact Or.inl ht
      · exact Or.inr (hp ▸ ht)
    rw [placeOf_of_qualified hc hb]
    refine iff_of_true hmeans ?_
    rintro ⟨ht, hs, -⟩
    exact hb (ht ▸ hs)

/-- The bean type of a nested field meets the bean of the record it was resolved to exactly if that
bean does not lie elsewhere. -/
theorem means_beanQualifiedName_iff {catalog : Catalog} {settings : Settings} {f : Field}
    {package : Option String} {target : HostType} {u : Schema} (hn : f.isNested = true)
    (hr : catalog.resolve? f.declaredType package = some target)
    (hu : extract catalog settings target = .ok u) :
    Means package f.beanType u.beanQualifiedName ↔
      ¬ LiesElsewhere settings package f.declaredType target := by
  have htype : f.beanType = companion f.declaredType := by
    unfold Field.beanType
    rw [if_pos hn]
  rw [htype, beanQualifiedName_of_extract hu, means_companion_iff]
  exact means_placeOf_iff hr (extract_eq_ok_iff.mp hu).2.1

/-- In a pass without failures every marked type has a schema, and its bean is reported. -/
theorem exists_generated {readOnly : List String} {catalog : Catalog} {settings : Settings}
    {w : Workplace Store}
    (hr : (run (Store.sink readOnly) catalog settings w).1.isSuccess = true) {h : HostType}
    (hh : h ∈ catalog.eligible) :
    ∃ s, extract catalog settings h = .ok s ∧
      s.beanQualifiedName ∈ (run (Store.sink readOnly) catalog settings w).1.generated := by
  obtain ⟨b, hb⟩ := outcome_of_isSuccess hr h hh
  obtain ⟨s, hs, -, -, hname⟩ := (outcomeOf_eq_ok_iff ..).mp hb
  refine ⟨s, hs, ?_⟩
  rw [(run_spec readOnly catalog settings w).1, ← hname]
  exact List.mem_map_of_mem ((mem_beansOf ..).mpr ⟨h, hh, hb⟩)

/-- Every nested field was resolved to a marked record, and its bean type meets that record's bean
exactly if the bean does not lie elsewhere. After a pass without failures these beans have been
delivered: one for every record, and one for every record that a field of it was resolved to. -/
theorem references_met_iff (readOnly : List String) (catalog : Catalog) (settings : Settings)
    (w : Workplace Store) :
    (∀ h ∈ catalog.eligible, ∀ s, extract catalog settings h = .ok s →
      ∀ f ∈ s.fields, f.isNested = true →
        ∃ target ∈ catalog.eligible,
          catalog.resolve? f.declaredType s.packageName = some target ∧
          ∀ u, extract catalog settings target = .ok u →
            (Means s.packageName f.beanType u.beanQualifiedName ↔
              ¬ LiesElsewhere settings s.packageName f.declaredType target)) ∧
    ((run (Store.sink readOnly) catalog settings w).1.isSuccess = true →
      ∀ h ∈ catalog.eligible, ∃ s, extract catalog settings h = .ok s ∧
        s.beanQualifiedName ∈ (run (Store.sink readOnly) catalog settings w).1.generated ∧
        ∀ f ∈ s.fields, f.isNested = true → ∃ target u,
          catalog.resolve? f.declaredType s.packageName = some target ∧
          extract catalog settings target = .ok u ∧
          u.beanQualifiedName ∈ (run (Store.sink readOnly) catalog settings w).1.generated ∧
          (Means s.packageName f.beanType u.beanQualifiedName ↔
            ¬ LiesElsewhere settings s.packageName f.declaredType target)) := by
  constructor
  · intro h _ s hs f hf hn
    obtain ⟨target, ht, hr⟩ := exists_target hs hf hn
    exact ⟨target, ht, hr, fun u hu => means_beanQualifiedName_iff hn hr hu⟩
  · intro hok h hh
    obtain ⟨s, hs, hgen⟩ := exists_generated hok hh
    refine ⟨s, hs, hgen, ?_⟩
    intro f hf hn
    obtain ⟨target, ht, hr⟩ := exists_target hs hf hn
    obtain ⟨u, hu, hugen⟩ := exists_generated hok ht
    exact ⟨target, u, hr, hu, hugen, means_beanQualifiedName_iff hn hr hu⟩

/-- A record without a package with a component of a bare record that is put into one. -/
def parted : Catalog where
  types := [
    ⟨"A", .record, [], none, some .plain, [⟨"b", "B"⟩]⟩,
    ⟨"B", .record, [], some "x", some .plain, []⟩]
  distinct := by decide

/-- The field is typed `BBean` where no package is given, and the bean it stands for is `x.BBean`. -/
theorem parted_misses_bean :
    ∃ h ∈ parted.eligible, ∃ s, extract parted .default h = .ok s ∧
      ∃ f ∈ s.fields, f.isNested = true ∧ ∃ target u,
        parted.resolve? f.declaredType s.packageName = some target ∧
        extract parted .default target = .ok u ∧
        s.packageName = none ∧ f.beanType = "BBean" ∧ u.beanQualifiedName = "x.BBean" ∧
        ¬ Means s.packageName f.beanType u.beanQualifiedName := by
  refine ⟨_, List.mem_cons_self, _, rfl, _, List.mem_cons_self, by decide, _, _, rfl, rfl, ?_⟩
  decide

end RecordBean.Reference
