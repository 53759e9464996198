import Mathlib.Data.List.Nodup
import RecordBean.Generation

/-! # The account of a pass

What becomes of one marked type can be said without any state: it is settled by its extraction, its
rendering and the classes that the store refuses (`outcomeOf`). A pass into a store is then fully
accounted for: its report, its store and its diagnostics are read off these outcomes, in catalog
order. The steps are one type (`generateOne`), a list of types (`generateEach`) and the whole pass
(`run`). -/

namespace RecordBean.Generation

/-- What a type that succeeds leaves in the store. -/
structure Bean where
  /-- The qualified name, which is also the key. -/
  name : String
  source : String
deriving DecidableEq, Repr

/-- The error of a store that refuses a class. -/
def refusal (className : String) : EmitError := .rejected (className ++ " is read-only")

/-- What becomes of one type: the first stage that fails decides. -/
def outcomeOf (readOnly : List String) (catalog : Catalog) (settings : Settings) (h : HostType) :
    Except GenerationError Bean :=
  match extract catalog settings h with
  | .error e => .error (.extract e)
  | .ok s =>
    match renderOwn s settings.header with
    | .error e => .error (.render e)
    | .ok source =>
      if s.beanName ∈ readOnly then .error (.emit (refusal s.beanName))
      else .ok ⟨s.beanQualifiedName, source⟩

/-- A store with further beans in it, put there one after another. -/
def keepAll (s : Store) (beans : List Bean) : Store :=
  beans.foldl (fun s b => s.put b.name b.source) s

def kept (s : Store) : Except GenerationError Bean → Store
  | .ok b => s.put b.name b.source
  | .error _ => s

/-- The diagnostics about a type with this outcome. -/
def told (h : HostType) : Except GenerationError Bean → List Diagnostic
  | .ok _ => [⟨.info, "Generating bean for " ++ h.name ++ "...", h.name⟩]
  | .error e =>
    [⟨.info, "Generating bean for " ++ h.name ++ "...", h.name⟩,
      ⟨.error, "Failed to beanerate `" ++ h.name ++ "`: " ++ e.message, h.name⟩]

theorem told_ok (h : HostType) (b : Bean) : told h (.ok b) = [opening h] := rfl

theorem told_error (h : HostType) (e : GenerationError) :
    told h (.error e) = [opening h, complaint h e] := rfl

def failure? (h : HostType) : Except GenerationError Bean → Option (String × GenerationError)
  | .ok _ => none
  | .error e => some (h.name, e)

/-- The outcome of a type as the report knows it. -/
def entryOf (h : HostType) (outcome : Except GenerationError Bean) :
    String × Except GenerationError String :=
  (h.name, outcome.map Bean.name)

section
variable (readOnly : List String) (catalog : Catalog) (settings : Settings)

/-- The beans of those types that succeed, in order. -/
def beansOf (hosts : List HostType) : List Bean :=
  hosts.filterMap fun h => (outcomeOf readOnly catalog settings h).toOption

/-- The types that fail with their errors, in order. -/
def failuresOf (hosts : List HostType) : List (String × GenerationError) :=
  hosts.filterMap fun h => failure? h (outcomeOf readOnly catalog settings h)

/-- The diagnostics about all types, type by type. -/
def toldAbout (hosts : List HostType) : List Diagnostic :=
  hosts.flatMap fun h => told h (outcomeOf readOnly catalog settings h)

theorem beansOf_cons (h : HostType) (rest : List HostType) :
    beansOf readOnly catalog settings (h :: rest) =
      (outcomeOf readOnly catalog settings h).toOption.toList ++
        beansOf readOnly catalog settings rest := by
  unfold beansOf
  rw [List.filterMap_cons]
  cases (outcomeOf readOnly catalog settings h).toOption <;> rfl

theorem failuresOf_cons (h : HostType) (rest : List HostType) :
    failuresOf readOnly catalog settings (h :: rest) =
      (failure? h (outcomeOf readOnly catalog settings h)).toList ++
        failuresOf readOnly catalog settings rest := by
  unfold failuresOf
  rw [List.filterMap_cons]
  cases failure? h (outcomeOf readOnly catalog settings h) <;> rfl

theorem outcomeOf_eq_ok_iff {h : HostType} {b : Bean} :
    outcomeOf readOnly catalog settings h = .ok b ↔
      ∃ s, extract catalog settings h = .ok s ∧ renderOwn s settings.header = .ok b.source ∧
        s.beanName ∉ readOnly ∧ b.name = s.beanQualifiedName := by
  unfold outcomeOf
  constructor
  · intro ho
    split at ho
    · cases ho
    · rename_i s hs
      split at ho
      · cases ho
      · rename_i source hr
        split at ho
        · cases ho
        · rename_i hn
          cases ho
          exact ⟨s, hs, hr, hn, rfl⟩
  · rintro ⟨s, hs, hr, hn, hb⟩
    simp only [hs, hr, hn, if_false]
    rw [← hb]

/-! ## One type -/

@[simp] theorem diagnosticsOf_record {σ : Type} (w : Workplace σ) (e : Event) :
    diagnosticsOf (w.record e).events = diagnosticsOf w.events ++ e.diagnostic?.toList := by
  unfold Workplace.record diagnosticsOf
  rw [List.filterMap_append]
  cases h : e.diagnostic? <;> simp [h]

@[simp] theorem record_state {σ : Type} (w : Workplace σ) (e : Event) :
    (w.record e).state = w.state := rfl

/-- The last stages, in a store: a refused or unprintable bean changes nothing, and a delivered one
is kept under the name that the report shows. -/
theorem finish_store (s : Schema) (w : Workplace Store) :
    finish (Store.sink readOnly) settings s w =
      match renderOwn s settings.header with
      | .error e => (.error (.render e), w)
      | .ok source =>
        if s.beanName ∈ readOnly then (.error (.emit (refusal s.beanName)), w)
        else (.ok s.beanQualifiedName, ⟨w.state.put s.beanQualifiedName source, w.events⟩) := by
  unfold finish prepare
  cases renderOwn s settings.header with
  | error e => rfl
  | ok source =>
    by_cases hn : s.beanName ∈ readOnly
    · simp [Except.map, Workplace.deliver, Store.sink, refusal, hn]
    · simp only [Except.map, Workplace.deliver, Store.sink, hn, if_false, List.append_nil]
      rfl

theorem generateOne_spec (h : HostType) (w : Workplace Store) :
    let o := outcomeOf readOnly catalog settings h
    let r := generateOne (Store.sink readOnly) catalog settings h w
    r.1 = o.map Bean.name ∧ r.2.state = kept w.state o ∧
      diagnosticsOf r.2.events = diagnosticsOf w.events ++ told h o := by
  simp only [generateOne, attempt, outcomeOf]
  cases extract catalog settings h with
  | error e => simp [Except.map, kept, told_error, Event.diagnostic?]
  | ok s =>
    simp only [finish_store]
    cases renderOwn s settings.header with
    | error e => simp [Except.map, kept, told_error, Event.diagnostic?]
    | ok source =>
      by_cases hn : s.beanName ∈ readOnly
      · simp [hn, Except.map, kept, told_error, Event.diagnostic?]
      · simp [hn, Except.map, kept, told_ok, Event.diagnostic?]

/-! ## All types, one after another -/

theorem generateEach_spec (hosts : List HostType) (w : Workplace Store) :
    let r := generateEach (Store.sink readOnly) catalog settings hosts w
    r.1 = hosts.map (fun h => entryOf h (outcomeOf readOnly catalog settings h)) ∧
      r.2.state = keepAll w.state (beansOf readOnly catalog settings hosts) ∧
      diagnosticsOf r.2.events =
        diagnosticsOf w.events ++ toldAbout readOnly catalog settings hosts := by
  induction hosts generalizing w with
  | nil => simp [generateEach, beansOf, toldAbout, keepAll]
  | cons h rest ih =>
    obtain ⟨hout, hstate, hdiag⟩ := generateOne_spec readOnly catalog settings h w
    obtain ⟨iout, istate, idiag⟩ :=
      ih (generateOne (Store.sink readOnly) catalog settings h w).2
    refine ⟨?_, ?_, ?_⟩
    · simp only [generateEach, List.map_cons, entryOf, hout, iout]
    · simp only [generateEach, istate, hstate, beansOf, List.filterMap_cons]
      cases outcomeOf readOnly catalog settings h <;> rfl
    · simp only [generateEach, idiag, hdiag, toldAbout, List.flatMap_cons, List.append_assoc]

/-! ## The report -/

theorem ofOutcomes_spec (hosts : List HostType) :
    let r := Report.ofOutcomes
      (hosts.map fun h => entryOf h (outcomeOf readOnly catalog settings h))
    r.generated = (beansOf readOnly catalog settings hosts).map Bean.name ∧
      r.failed = failuresOf readOnly catalog settings hosts := by
  induction hosts with
  | nil => exact ⟨rfl, rfl⟩
  | cons h rest ih =>
    obtain ⟨ig, ifl⟩ := ih
    simp only [Report.ofOutcomes] at ig ifl
    simp only [Report.ofOutcomes, List.map_cons, List.filterMap_cons, beansOf, failuresOf, ig, ifl]
    cases outcomeOf readOnly catalog settings h <;> exact ⟨rfl, rfl⟩

theorem mem_beansOf {hosts : List HostType} {b : Bean} :
    b ∈ beansOf readOnly catalog settings hosts ↔
      ∃ h ∈ hosts, outcomeOf readOnly catalog settings h = .ok b := by
  unfold beansOf
  rw [List.mem_filterMap]
  refine exists_congr fun h => and_congr_right fun _ => ?_
  cases outcomeOf readOnly catalog settings h <;> simp [Except.toOption]

theorem mem_failuresOf {hosts : List HostType} {name : String} {e : GenerationError} :
    (name, e) ∈ failuresOf readOnly catalog settings hosts ↔
      ∃ h ∈ hosts, h.name = name ∧ outcomeOf readOnly catalog settings h = .error e := by
  unfold failuresOf
  rw [List.mem_filterMap]
  refine exists_congr fun h => and_congr_right fun _ => ?_
  cases outcomeOf readOnly catalog settings h <;> simp [failure?]

/-- Every type is reported once, as a success or as a failure. -/
theorem length_beansOf_add_failuresOf (hosts : List HostType) :
    (beansOf readOnly catalog settings hosts).length +
      (failuresOf readOnly catalog settings hosts).length = hosts.length := by
  induction hosts with
  | nil => rfl
  | cons h rest ih =>
    rw [beansOf_cons, failuresOf_cons, List.length_append, List.length_append, List.length_cons]
    have h1 : (outcomeOf readOnly catalog settings h).toOption.toList.length +
        (failure? h (outcomeOf readOnly catalog settings h)).toList.length = 1 := by
      cases outcomeOf readOnly catalog settings h <;> rfl
    omega

end

/-! ## The store -/

/-- Under every key the last bean of that name is kept, and without one what was there before. -/
theorem get?_keepAll (s : Store) (beans : List Bean) (key : String) :
    (keepAll s beans).get? key =
      ((beans.filter (·.name == key)).getLast?.map Bean.source).or (s.get? key) := by
  induction beans generalizing s with
  | nil => simp [keepAll]
  | cons b rest ih =>
    have hcons : keepAll s (b :: rest) = keepAll (s.put b.name b.source) rest := rfl
    rw [hcons, ih, Store.get?_put]
    by_cases hb : b.name = key
    · rw [List.filter_cons_of_pos (by simpa using hb), List.getLast?_cons]
      cases (rest.filter (·.name == key)).getLast? <;> simp [hb]
    · rw [List.filter_cons_of_neg (by simpa using hb), if_neg hb]

theorem get?_keepAll_of_notMem {s : Store} {beans : List Bean} {key : String}
    (hk : key ∉ beans.map Bean.name) : (keepAll s beans).get? key = s.get? key := by
  have hf : beans.filter (·.name == key) = [] := by
    rw [List.filter_eq_nil_iff]
    intro b hb he
    exact hk (List.mem_map.mpr ⟨b, hb, by simpa using he⟩)
  rw [get?_keepAll, hf]
  rfl

theorem get?_keepAll_ne_none_iff {s : Store} {beans : List Bean} {key : String} :
    (keepAll s beans).get? key ≠ none ↔ key ∈ beans.map Bean.name ∨ s.get? key ≠ none := by
  by_cases hk : key ∈ beans.map Bean.name
  · obtain ⟨b, hb, he⟩ := List.mem_map.mp hk
    have hf : b ∈ beans.filter (·.name == key) := List.mem_filter.mpr ⟨hb, by simpa using he⟩
    rw [get?_keepAll, List.getLast?_eq_some_getLast (List.ne_nil_of_mem hf)]
    exact iff_of_true (Option.some_ne_none _) (Or.inl hk)
  · rw [get?_keepAll_of_notMem hk]
    simp [hk]

/-! ## The whole pass -/

/-- The names of the types of a catalog tell them apart. -/
theorem eq_of_name_eq {catalog : Catalog} {h k : HostType} (hh : h ∈ catalog.types)
    (hk : k ∈ catalog.types) (hn : h.name = k.name) : h = k :=
  List.inj_on_of_nodup_map catalog.distinct hh hk hn

/-- A name finds the one type that bears it. -/
theorem get?_eq_some_iff {catalog : Catalog} {name : String} {h : HostType} :
    catalog.get? name = some h ↔ h ∈ catalog.types ∧ h.name = name := by
  unfold Catalog.get?
  constructor
  · intro hg
    exact ⟨List.mem_of_find?_eq_some hg, by simpa using List.find?_some hg⟩
  · rintro ⟨hh, rfl⟩
    obtain ⟨k, hk⟩ := Option.isSome_iff_exists.mp
      (List.find?_isSome.mpr ⟨h, hh, by simp⟩ : (catalog.types.find? (·.name == h.name)).isSome)
    have hn : k.name = h.name := by simpa using List.find?_some hk
    rw [hk, eq_of_name_eq (List.mem_of_find?_eq_some hk) hh hn]

theorem mem_types_of_mem_eligible {catalog : Catalog} {h : HostType} (hh : h ∈ catalog.eligible) :
    h ∈ catalog.types := (List.mem_filter.mp hh).1

/-- No two types share a name, so the failures name exactly the types without a bean. -/
theorem name_notMem_failuresOf_iff (readOnly : List String) {catalog : Catalog}
    (settings : Settings) {h : HostType} (hh : h ∈ catalog.eligible) :
    h.name ∉ (failuresOf readOnly catalog settings catalog.eligible).map Prod.fst ↔
      ∃ b, outcomeOf readOnly catalog settings h = .ok b := by
  constructor
  · intro hn
    cases ho : outcomeOf readOnly catalog settings h with
    | ok b => exact ⟨b, rfl⟩
    | error e =>
      have hf : (h.name, e) ∈ failuresOf readOnly catalog settings catalog.eligible :=
        (mem_failuresOf ..).mpr ⟨h, hh, rfl, ho⟩
      exact absurd (List.mem_map.mpr ⟨_, hf, rfl⟩) hn
  · rintro ⟨b, hb⟩ hm
    obtain ⟨⟨name, e⟩, hf, rfl⟩ := List.mem_map.mp hm
    obtain ⟨k, hk, hn, he⟩ := (mem_failuresOf ..).mp hf
    have hkh := eq_of_name_eq (mem_types_of_mem_eligible hk) (mem_types_of_mem_eligible hh) hn
    rw [hkh, hb] at he
    cases he

theorem run_report (readOnly : List String) (catalog : Catalog) (settings : Settings)
    (w : Workplace Store) :
    (run (Store.sink readOnly) catalog settings w).1 =
      .ofOutcomes (catalog.eligible.map fun h =>
        entryOf h (outcomeOf readOnly catalog settings h)) := by
  rw [← (generateEach_spec readOnly catalog settings catalog.eligible
    (w.record (.passStarted catalog.eligible.length settings.parallel))).1]
  rfl

theorem run_spec (readOnly : List String) (catalog : Catalog) (settings : Settings)
    (w : Workplace Store) :
    let r := run (Store.sink readOnly) catalog settings w
    r.1.generated = (beansOf readOnly catalog settings catalog.eligible).map Bean.name ∧
      r.1.failed = failuresOf readOnly catalog settings catalog.eligible ∧
      r.2.state = keepAll w.state (beansOf readOnly catalog settings catalog.eligible) ∧
      diagnosticsOf r.2.events =
        diagnosticsOf w.events ++ toldAbout readOnly catalog settings catalog.eligible := by
  obtain ⟨hout, hstate, hdiag⟩ := generateEach_spec readOnly catalog settings catalog.eligible
    (w.record (.passStarted catalog.eligible.length settings.parallel))
  obtain ⟨hgen, hfail⟩ := ofOutcomes_spec readOnly catalog settings catalog.eligible
  rw [← hout] at hgen hfail
  refine ⟨hgen, hfail, hstate, ?_⟩
  rw [diagnosticsOf_record] at hdiag
  simpa [run, Event.diagnostic?] using hdiag

/-- The full account of a pass into a store in which some classes are read-only. -/
structure Accounts (readOnly : List String) (catalog : Catalog) (settings : Settings)
    (before : Workplace Store) (report : Report) (after : Workplace Store) : Prop where
  /-- A type stays out of the failures exactly if all three stages succeed. -/
  succeeds_iff : ∀ h ∈ catalog.eligible, h.name ∉ report.failed.map Prod.fst ↔
    ∃ s source, extract catalog settings h = .ok s ∧
      renderOwn s settings.header = .ok source ∧ s.beanName ∉ readOnly
  /-- The beans of the types that succeed, in catalog order. -/
  generated : report.generated =
    (beansOf readOnly catalog settings catalog.eligible).map Bean.name
  /-- The other types with the error of the first stage that failed, in catalog order. -/
  failed : report.failed = failuresOf readOnly catalog settings catalog.eligible
  attempted : report.attempted = catalog.eligible.length
  /-- Under every key the store has the source of the last type in catalog order that succeeds with
  a bean of this name, or else what it had before. -/
  state : ∀ key, after.state.get? key =
    (((beansOf readOnly catalog settings catalog.eligible).filter
      (·.name == key)).getLast?.map Bean.source).or (before.state.get? key)
  untouched : ∀ key, key ∉ report.generated → after.state.get? key = before.state.get? key
  /-- One opening for every type, and a complaint behind it if the type failed. -/
  diagnostics : diagnosticsOf after.events =
    diagnosticsOf before.events ++ toldAbout readOnly catalog settings catalog.eligible

/-- A pass over a catalog is fully accounted for, whatever the store held before, whichever classes
it refuses and whatever was reported before. -/
theorem run_accounts (readOnly : List String) (catalog : Catalog) (settings : Settings)
    (w : Workplace Store) :
    Accounts readOnly catalog settings w
      (run (Store.sink readOnly) catalog settings w).1
      (run (Store.sink readOnly) catalog settings w).2 := by
  obtain ⟨hgen, hfail, hstate, hdiag⟩ := run_spec readOnly catalog settings w
  refine ⟨?_, hgen, hfail, ?_, ?_, ?_, hdiag⟩
  · intro h hh
    rw [hfail, name_notMem_failuresOf_iff readOnly settings hh]
    constructor
    · rintro ⟨b, hb⟩
      obtain ⟨s, hs, hr, hn, -⟩ := (outcomeOf_eq_ok_iff ..).mp hb
      exact ⟨s, b.source, hs, hr, hn⟩
    · rintro ⟨s, source, hs, hr, hn⟩
      exact ⟨⟨s.beanQualifiedName, source⟩, (outcomeOf_eq_ok_iff ..).mpr ⟨s, hs, hr, hn, rfl⟩⟩
  · unfold Report.attempted
    rw [hgen, hfail, List.length_map]
    exact length_beansOf_add_failuresOf readOnly catalog settings catalog.eligible
  · intro key
    rw [hstate]
    exact get?_keepAll w.state _ key
  · intro key hk
    rw [hgen] at hk
    rw [hstate]
    exact get?_keepAll_of_notMem hk

end RecordBean.Generation
