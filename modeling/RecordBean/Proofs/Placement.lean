import RecordBean.Proofs.Accounting
import RecordBean.Proofs.Extraction

/-! # Where beans lie

A bean is kept under the name of its record, qualified by the package that extraction settles, with
the suffix of beans behind it. A qualified record keeps its name there; a bare one gets the package
given with it, or the one of the settings, and can so land on the name of a qualified record of the
same catalog. This is the only way in which two records of a catalog come to share a key, and then
one bean replaces the other. -/

namespace RecordBean.Placement
open RecordBean.Name RecordBean.Extraction RecordBean.Generation

/-- The name of a type, qualified by the package that extraction settles. -/
def placeOf (settings : Settings) (h : HostType) : String :=
  qualify (packageOf settings h) (splitQualified h.name).2

/-- Whether a bare type gets the qualified name of another type. -/
def LandsOn (settings : Settings) (h k : HostType) : Prop :=
  IsSimple h.name ∧ placeOf settings h = k.name

instance (settings : Settings) (h k : HostType) : Decidable (LandsOn settings h k) :=
  inferInstanceAs (Decidable (_ ∧ _))

theorem qualify_companion (package : Option String) (simple : String) :
    qualify package (companion simple) = companion (qualify package simple) := by
  cases package with
  | none => rfl
  | some p => simp [qualify, companion, String.append_assoc]

theorem beanQualifiedName_of_extract {catalog : Catalog} {settings : Settings} {h : HostType}
    {s : Schema} (hs : extract catalog settings h = .ok s) :
    s.beanQualifiedName = companion (placeOf settings h) := by
  rw [extract_eq_schemaOf hs]
  exact qualify_companion _ _

theorem placeOf_of_qualified {settings : Settings} {h : HostType} (hc : packageConflict? h = none)
    (hq : ¬ IsSimple h.name) : placeOf settings h = h.name := qualify_packageOf hc hq

/-- The place of a bare type ends in its name, so two bare types never meet, and neither lands on
the other. -/
theorem placeOf_ne_of_isSimple (settings : Settings) {h k : HostType} (bh : IsSimple h.name)
    (bk : IsSimple k.name) (hn : h.name ≠ k.name) (package : Option String) :
    placeOf settings h ≠ qualify package k.name := by
  unfold placeOf
  rw [splitQualified_of_isSimple bh]
  exact fun he => hn ((qualify_eq_iff bh bk).mp he).2

/-- Types with different names come to the same place only if one of them is bare and lands on the
other. -/
theorem placeOf_eq_iff {settings : Settings} {h k : HostType} (hh : packageConflict? h = none)
    (hk : packageConflict? k = none) (hn : h.name ≠ k.name) :
    placeOf settings h = placeOf settings k ↔ LandsOn settings h k ∨ LandsOn settings k h := by
  by_cases bh : IsSimple h.name
  · by_cases bk : IsSimple k.name
    · have hd : placeOf settings h ≠ placeOf settings k := by
        have hp := placeOf_ne_of_isSimple settings bh bk hn (packageOf settings k)
        unfold placeOf at hp ⊢
        rwa [splitQualified_of_isSimple bk]
      have hl : placeOf settings h ≠ k.name := placeOf_ne_of_isSimple settings bh bk hn none
      have hr : placeOf settings k ≠ h.name :=
        placeOf_ne_of_isSimple settings bk bh (Ne.symm hn) none
      simp [LandsOn, hd, hl, hr]
    · rw [placeOf_of_qualified hk bk]
      simp [LandsOn, bh, bk]
  · by_cases bk : IsSimple k.name
    · rw [placeOf_of_qualified hh bh]
      simp [LandsOn, bh, bk, eq_comm]
    · rw [placeOf_of_qualified hh bh, placeOf_of_qualified hk bk]
      simp [LandsOn, bh, bk, hn]

/-- Two schemas of one catalog share a key exactly if one type lands on the other. -/
theorem beanQualifiedName_eq_iff {catalog : Catalog} {settings : Settings} {h k : HostType}
    {s t : Schema} (hh : h ∈ catalog.types) (hk : k ∈ catalog.types) (hn : h ≠ k)
    (hs : extract catalog settings h = .ok s) (ht : extract catalog settings k = .ok t) :
    s.beanQualifiedName = t.beanQualifiedName ↔
      LandsOn settings h k ∨ LandsOn settings k h := by
  have hd : h.name ≠ k.name := fun he => hn (eq_of_name_eq hh hk he)
  rw [beanQualifiedName_of_extract hs, beanQualifiedName_of_extract ht, companion_eq_iff]
  exact placeOf_eq_iff (extract_eq_ok_iff.mp hs).2.1 (extract_eq_ok_iff.mp ht).2.1 hd

/-! ## Beside the record -/

/-- A type that is accepted with a package is accepted without it, whatever the settings give to
bare names. -/
theorem exists_extract_without_package {catalog : Catalog} {settings : Settings} {h : HostType}
    {s : Schema} (hs : extract catalog settings h = .ok s) (others : Settings) :
    ∃ t, extract catalog others { h with package := none } = .ok t := by
  obtain ⟨hk, -, hcheck, -⟩ := extract_eq_ok_iff.mp hs
  exact ⟨_, extract_eq_ok_iff.mpr ⟨hk, rfl, hcheck, rfl⟩⟩

/-- The package of a qualified type is what stands before the last dot of its name, and the simple
name is what stands behind it. -/
theorem parts_of_qualified {catalog : Catalog} {settings : Settings} {h : HostType} {s : Schema}
    (hs : extract catalog settings h = .ok s) (hq : ¬ IsSimple h.name) :
    IsSimple s.simpleName ∧
      ∃ p, s.packageName = some p ∧ qualify (some p) s.simpleName = h.name := by
  have hc : packageConflict? h = none := (extract_eq_ok_iff.mp hs).2.1
  rw [extract_eq_schemaOf hs]
  refine ⟨isSimple_splitQualified h.name, ?_⟩
  cases hd : (splitQualified h.name).1 with
  | none => exact absurd (isSimple_of_fst_eq_none hd) hq
  | some derived =>
    have hp : packageOf settings h = some derived := packageOf_of_qualified hc hd
    refine ⟨derived, hp, ?_⟩
    show qualify (some derived) (splitQualified h.name).2 = h.name
    rw [← hd]
    exact qualify_splitQualified h.name

theorem beanQualifiedName_of_qualified {catalog : Catalog} {settings : Settings} {h : HostType}
    {s : Schema} (hs : extract catalog settings h = .ok s) (hq : ¬ IsSimple h.name) :
    s.beanQualifiedName = companion h.name := by
  rw [beanQualifiedName_of_extract hs, placeOf_of_qualified (extract_eq_ok_iff.mp hs).2.1 hq]

/-- A bare type takes its place from the package given with it, else from the settings. -/
theorem beanQualifiedName_of_isSimple {catalog : Catalog} {settings : Settings} {h : HostType}
    {s : Schema} (hs : extract catalog settings h = .ok s) (hb : IsSimple h.name) :
    s.beanQualifiedName =
      qualify (h.package <|> settings.defaultPackage) (companion h.name) := by
  rw [beanQualifiedName_of_extract hs, placeOf, packageOf_of_isSimple hb,
    splitQualified_of_isSimple hb, qualify_companion]

/-- A bean lies beside its record. Where the name of the record has a dot, the schema holds its two
parts and the bean has that name with the suffix of beans behind it; neither the settings nor a
package given with the record have a say in it, so that both can be changed or left out. Where the
name has none, the bean lies in the package given with the record, else in the one of the
settings, else in the unnamed one. -/
theorem bean_lies_beside_record {catalog : Catalog} {settings : Settings} {h : HostType}
    {s : Schema} (hs : extract catalog settings h = .ok s) :
    ('.' ∈ h.name.toList →
      '.' ∉ s.simpleName.toList ∧
      (∃ p, s.packageName = some p ∧ p ++ "." ++ s.simpleName = h.name) ∧
      s.beanQualifiedName = h.name ++ "Bean" ∧
      ∀ others : Settings, ∃ t, extract catalog others { h with package := none } = .ok t ∧
        t.beanQualifiedName = s.beanQualifiedName) ∧
    ('.' ∉ h.name.toList →
      s.beanQualifiedName =
        match h.package, settings.defaultPackage with
        | some p, _ => p ++ "." ++ (h.name ++ "Bean")
        | none, some d => d ++ "." ++ (h.name ++ "Bean")
        | none, none => h.name ++ "Bean") := by
  constructor
  · intro hdot
    have hq : ¬ IsSimple h.name := not_not_intro hdot
    have hname : s.beanQualifiedName = companion h.name := beanQualifiedName_of_qualified hs hq
    obtain ⟨hsimple, hparts⟩ := parts_of_qualified hs hq
    refine ⟨hsimple, hparts, hname, fun others => ?_⟩
    obtain ⟨t, ht⟩ := exists_extract_without_package hs others
    exact ⟨t, ht, (beanQualifiedName_of_qualified ht hq).trans hname.symm⟩
  · intro hb
    rw [beanQualifiedName_of_isSimple hs hb]
    cases h.package with
    | some p => rfl
    | none => cases settings.defaultPackage <;> rfl

/-- The record `Cup` of a package whose name ends in a dot, which is given twice. -/
def dottedCup : HostType := ⟨"demo..Cup", .record, [], some "demo.", none, [⟨"size", "int"⟩]⟩

/-- The same record with a bare name and no package. -/
def bareCup : HostType := ⟨"Cup", .record, [], none, none, [⟨"size", "int"⟩]⟩

def cups : Catalog where
  types := [dottedCup, bareCup]
  distinct := by decide

/-- Settings that put bare names into a package. -/
def shopSettings : Settings := { Settings.default with defaultPackage := some "shop" }

theorem cups_lie_beside_records :
    (∃ s, extract cups shopSettings dottedCup = .ok s ∧ s.beanQualifiedName = "demo..CupBean") ∧
    ∃ s, extract cups shopSettings bareCup = .ok s ∧ s.beanQualifiedName = "shop.CupBean" := by
  have hdotted : ∃ s, extract cups shopSettings dottedCup = .ok s := ⟨_, rfl⟩
  have hbare : ∃ s, extract cups shopSettings bareCup = .ok s := ⟨_, rfl⟩
  obtain ⟨s, hs⟩ := hdotted
  obtain ⟨t, ht⟩ := hbare
  refine ⟨⟨s, hs, ?_⟩, t, ht, ?_⟩
  · exact ((bean_lies_beside_record hs).1 (by decide)).2.2.1
  · exact (bean_lies_beside_record ht).2 (by decide)

/-! ## The number of sources -/

theorem size_put (s : Store) (name source : String) :
    (s.put name source).size = if s.get? name = none then s.size + 1 else s.size := by
  unfold Store.put Store.size Store.get?
  rw [Std.TreeMap.size_insert]
  by_cases hm : name ∈ s.sources
  · simp [hm]
  · simp [hm]

theorem get?_put_eq_none_iff {s : Store} {name source key : String} :
    (s.put name source).get? key = none ↔ key ≠ name ∧ s.get? key = none := by
  rw [Store.get?_put]
  by_cases hk : name = key
  · simp [hk]
  · simp [hk, Ne.symm hk]

/-- Every bean adds a source exactly if it has a key of its own. -/
theorem size_keepAll (s : Store) (beans : List Bean) :
    (keepAll s beans).size ≤ s.size + beans.length ∧
      ((keepAll s beans).size = s.size + beans.length ↔
        (beans.map Bean.name).Nodup ∧ ∀ b ∈ beans, s.get? b.name = none) := by
  induction beans generalizing s with
  | nil => simp [keepAll]
  | cons b rest ih =>
    obtain ⟨ile, ieq⟩ := ih (s.put b.name b.source)
    have hcons : keepAll s (b :: rest) = keepAll (s.put b.name b.source) rest := rfl
    have hfresh : b.name ∉ rest.map Bean.name ↔ ∀ c ∈ rest, c.name ≠ b.name := by
      simp [List.mem_map]
    rw [hcons, List.length_cons, List.map_cons, List.nodup_cons, List.forall_mem_cons, hfresh]
    by_cases hb : s.get? b.name = none
    · rw [size_put, if_pos hb, Nat.add_assoc, Nat.add_comm 1] at ile ieq
      refine ⟨ile, ieq.trans ?_⟩
      simp only [get?_put_eq_none_iff]
      constructor
      · rintro ⟨hd, hr⟩
        exact ⟨⟨fun c hc => (hr c hc).1, hd⟩, hb, fun c hc => (hr c hc).2⟩
      · rintro ⟨⟨hf, hd⟩, -, hr⟩
        exact ⟨hd, fun c hc => ⟨hf c hc, hr c hc⟩⟩
    · -- a taken key adds nothing, and the others cannot make up for it
      rw [size_put, if_neg hb] at ile
      refine ⟨by omega, ?_⟩
      constructor
      · intro he
        omega
      · rintro ⟨-, hnone, -⟩
        exact absurd hnone hb

/-- Where every type succeeds, the beans lie at the places of the types. -/
theorem names_beansOf {readOnly : List String} {catalog : Catalog} {settings : Settings}
    {hosts : List HostType}
    (hall : ∀ h ∈ hosts, ∃ b, outcomeOf readOnly catalog settings h = .ok b) :
    (beansOf readOnly catalog settings hosts).map Bean.name =
      hosts.map fun h => companion (placeOf settings h) := by
  induction hosts with
  | nil => rfl
  | cons h rest ih =>
    obtain ⟨b, hb⟩ := hall h List.mem_cons_self
    obtain ⟨s, hs, -, -, hn⟩ := (outcomeOf_eq_ok_iff ..).mp hb
    rw [beansOf_cons, hb, List.map_append, ih fun k hk => hall k (List.mem_cons_of_mem h hk)]
    simp [Except.toOption, hn, beanQualifiedName_of_extract hs]

/-- A pass without failures has an outcome with a bean for every type. -/
theorem outcome_of_isSuccess {readOnly : List String} {catalog : Catalog} {settings : Settings}
    {w : Workplace Store}
    (hr : (run (Store.sink readOnly) catalog settings w).1.isSuccess = true) :
    ∀ h ∈ catalog.eligible, ∃ b, outcomeOf readOnly catalog settings h = .ok b := by
  intro h hh
  have hf : (run (Store.sink readOnly) catalog settings w).1.failed = [] :=
    List.isEmpty_iff.mp hr
  rw [(run_spec readOnly catalog settings w).2.1] at hf
  rw [← name_notMem_failuresOf_iff readOnly settings hh, hf]
  simp

/-- Marked types that all come through stay apart exactly if none of them lands on another. -/
theorem places_nodup_iff {readOnly : List String} {catalog : Catalog} {settings : Settings}
    (hall : ∀ h ∈ catalog.eligible, ∃ b, outcomeOf readOnly catalog settings h = .ok b) :
    (catalog.eligible.map fun h => companion (placeOf settings h)).Nodup ↔
      ∀ h ∈ catalog.eligible, ∀ k ∈ catalog.eligible, h ≠ k → ¬ LandsOn settings h k := by
  have hnd : catalog.eligible.Nodup := (List.Nodup.of_map _ catalog.distinct).filter _
  have hconflict : ∀ h ∈ catalog.eligible, packageConflict? h = none := by
    intro h hh
    obtain ⟨b, hb⟩ := hall h hh
    obtain ⟨s, hs, -⟩ := (outcomeOf_eq_ok_iff ..).mp hb
    exact (extract_eq_ok_iff.mp hs).2.1
  have hplace : ∀ h ∈ catalog.eligible, ∀ k ∈ catalog.eligible, h ≠ k →
      (companion (placeOf settings h) = companion (placeOf settings k) ↔
        LandsOn settings h k ∨ LandsOn settings k h) := by
    intro h hh k hk hn
    rw [companion_eq_iff]
    exact placeOf_eq_iff (hconflict h hh) (hconflict k hk) fun he => hn
      (eq_of_name_eq (mem_types_of_mem_eligible hh) (mem_types_of_mem_eligible hk) he)
  rw [List.nodup_map_iff_inj_on hnd]
  constructor
  · intro hinj h hh k hk hn hl
    exact hn (hinj h hh k hk ((hplace h hh k hk hn).mpr (Or.inl hl)))
  · intro hapart h hh k hk he
    by_contra hn
    rcases (hplace h hh k hk hn).mp he with hl | hl
    · exact hapart h hh k hk hn hl
    · exact hapart k hk h hh (Ne.symm hn) hl

/-- Two marked records share a key exactly if one of them is bare and is put under the qualified
name of the other, and after a pass without failures the store holds one source for every bean of
the report exactly if this happens nowhere. -/
theorem beans_lost_iff (readOnly : List String) (catalog : Catalog) (settings : Settings) :
    (∀ h ∈ catalog.eligible, ∀ k ∈ catalog.eligible, h ≠ k → ∀ s t,
      extract catalog settings h = .ok s → extract catalog settings k = .ok t →
        (s.beanQualifiedName = t.beanQualifiedName ↔
          LandsOn settings h k ∨ LandsOn settings k h)) ∧
    ((run (Store.sink readOnly) catalog settings (.start .empty)).1.isSuccess = true →
      ((run (Store.sink readOnly) catalog settings (.start .empty)).2.state.size =
          (run (Store.sink readOnly) catalog settings (.start .empty)).1.generated.length ↔
        ∀ h ∈ catalog.eligible, ∀ k ∈ catalog.eligible, h ≠ k → ¬ LandsOn settings h k)) := by
  constructor
  · intro h hh k hk hn s t hs ht
    exact beanQualifiedName_eq_iff (mem_types_of_mem_eligible hh) (mem_types_of_mem_eligible hk)
      hn hs ht
  · intro hr
    have hall := outcome_of_isSuccess hr
    obtain ⟨hgen, -, hstate, -⟩ := run_spec readOnly catalog settings (.start .empty)
    rw [hgen, hstate, List.length_map]
    have hsize := (size_keepAll .empty (beansOf readOnly catalog settings catalog.eligible)).2
    have hempty : ∀ name, Store.empty.get? name = none := fun name => by
      simp [Store.get?, Store.empty]
    rw [show Store.empty.size = 0 from rfl, Nat.zero_add] at hsize
    refine hsize.trans ?_
    rw [names_beansOf hall, places_nodup_iff hall]
    exact and_iff_left fun b _ => hempty b.name

/-- A record with its package in its name, and one of the same package that is given apart. -/
def twins : Catalog where
  types := [
    ⟨"a.B", .record, [], none, some .plain, []⟩,
    ⟨"B", .record, [], some "a", some .plain, []⟩]
  distinct := by decide

/-- Distinct names are not enough: both records are reported and one source is left. -/
theorem twins_share_key :
    (∃ h ∈ twins.eligible, ∃ k ∈ twins.eligible, h ≠ k ∧ ∃ s t,
      extract twins .default h = .ok s ∧ extract twins .default k = .ok t ∧
        s.beanQualifiedName = t.beanQualifiedName) ∧
    (run (Store.sink []) twins .default (.start .empty)).1.generated = ["a.BBean", "a.BBean"] ∧
    (run (Store.sink []) twins .default (.start .empty)).1.failed = [] ∧
    (run (Store.sink []) twins .default (.start .empty)).2.state.size = 1 := by
  refine ⟨⟨_, List.mem_cons_self, _, List.mem_cons_of_mem _ List.mem_cons_self, by decide,
    _, _, rfl, rfl, by decide⟩, by decide, by decide, by decide⟩

end RecordBean.Placement
