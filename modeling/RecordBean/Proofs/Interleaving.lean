import RecordBean.Proofs.Courses

/-! # Passes into a store that work on several types at the same time

Whatever the order is in which the steps of the types are taken, the report and the diagnostics
about each type are those of the pass that takes one type after another, and the store has the same
keys.

The proof relates every stage of every type to the outcome the type is bound to have (`Underway`).
One step keeps the relation (`Underway.step`), so a whole schedule does (`Underway.follow`), and
once all types are through it says what the shared state holds. -/

namespace RecordBean.Interleaving
open RecordBean.Generation

/-! ## What one step can do -/

section
variable (readOnly : List String) (catalog : Catalog) (settings : Settings)

/-- Whether a stage can lead to the outcome of its type. -/
def Fits (h : HostType) : Stage → Prop
  | .waiting | .announced => True
  | .extracted s => extract catalog settings h = .ok s
  | .failing e => outcomeOf readOnly catalog settings h = .error e
  | .through outcome => outcome = (outcomeOf readOnly catalog settings h).map Bean.name

/-- Everything that one step can do to the stage of a type and to what the types share. -/
inductive Moves (h : HostType) : Stage → Workplace Store → Stage → Workplace Store → Prop
  | announce (w : Workplace Store) :
      Moves h .waiting w .announced (w.record (.reported (opening h)))
  | extract {s : Schema} (w : Workplace Store) (hs : extract catalog settings h = .ok s) :
      Moves h .announced w (.extracted s)
        (w.record (.schemaExtracted s.qualifiedName s.fields.length))
  | fail {stage : Stage} {e : GenerationError} (w : Workplace Store)
      (hs : stage = .announced ∨ ∃ s, stage = .extracted s)
      (he : outcomeOf readOnly catalog settings h = .error e) : Moves h stage w (.failing e) w
  | deliver {s : Schema} {b : Bean} (w : Workplace Store)
      (hb : outcomeOf readOnly catalog settings h = .ok b) :
      Moves h (.extracted s) w (.through (.ok b.name)) ⟨w.state.put b.name b.source, w.events⟩
  | complain {e : GenerationError} (w : Workplace Store)
      (he : outcomeOf readOnly catalog settings h = .error e) :
      Moves h (.failing e) w (.through (.error e)) (w.record (.reported (complaint h e)))
  | rest {outcome : Except GenerationError String} (w : Workplace Store)
      (ho : outcome = (outcomeOf readOnly catalog settings h).map Bean.name) :
      Moves h (.through outcome) w (.through outcome) w

theorem advance_moves {h : HostType} {stage : Stage} (hf : Fits readOnly catalog settings h stage)
    (w : Workplace Store) :
    Moves readOnly catalog settings h stage w
      (advance (Store.sink readOnly) catalog settings h stage w).1
      (advance (Store.sink readOnly) catalog settings h stage w).2 := by
  cases stage with
  | waiting => exact .announce w
  | announced =>
    unfold advance
    cases hs : extract catalog settings h with
    | error e => exact .fail w (Or.inl rfl) (by simp [outcomeOf, hs])
    | ok s => exact .extract w hs
  | extracted s =>
    have hs : extract catalog settings h = .ok s := hf
    simp only [advance, finish_store]
    cases hr : renderOwn s settings.header with
    | error e => exact .fail w (Or.inr ⟨s, rfl⟩) (by simp [outcomeOf, hs, hr])
    | ok source =>
      by_cases hn : s.beanName ∈ readOnly
      · simp only [hn, if_true]
        exact .fail w (Or.inr ⟨s, rfl⟩) (by simp [outcomeOf, hs, hr, hn])
      · simp only [hn, if_false]
        exact .deliver (b := ⟨s.beanQualifiedName, source⟩) w (by simp [outcomeOf, hs, hr, hn])
  | failing e => exact .complain w hf
  | through outcome => exact .rest w hf

theorem Moves.fits {h : HostType} {a b : Stage} {v w : Workplace Store}
    (hm : Moves readOnly catalog settings h a v b w) : Fits readOnly catalog settings h b := by
  cases hm with
  | announce => trivial
  | extract _ hs => exact hs
  | fail _ _ he => exact he
  | deliver _ hb => simp [Fits, hb, Except.map]
  | complain _ he => simp [Fits, he, Except.map]
  | rest _ ho => exact ho

/-- The diagnostics about a type up to a stage. -/
def toldUpTo (h : HostType) : Stage → List Diagnostic
  | .waiting => []
  | .announced | .extracted _ | .failing _ | .through (.ok _) => [opening h]
  | .through (.error e) => [opening h, complaint h e]

/-- A step reports what its type has to tell next, and about no other type. -/
theorem Moves.diagnostics {h : HostType} {a b : Stage} {v w : Workplace Store}
    (hm : Moves readOnly catalog settings h a v b w) :
    ∃ new, diagnosticsOf w.events = diagnosticsOf v.events ++ new ∧
      toldUpTo h b = toldUpTo h a ++ new ∧ ∀ d ∈ new, d.subject = h.name := by
  cases hm with
  | announce => exact ⟨[opening h], by simp [Event.diagnostic?], rfl, by simp [opening]⟩
  | extract => exact ⟨[], by simp [Event.diagnostic?], rfl, by simp⟩
  | fail _ hs =>
    refine ⟨[], by simp, ?_, by simp⟩
    rcases hs with rfl | ⟨s, rfl⟩ <;> rfl
  | deliver => exact ⟨[], by simp, rfl, by simp⟩
  | @complain e =>
    exact ⟨[complaint h e], by simp [Event.diagnostic?], rfl, by simp [complaint]⟩
  | rest => exact ⟨[], by simp, by simp, by simp⟩

/-- A step leaves the store alone and brings no bean through, or it puts the bean of its type into
the store and brings it through. -/
theorem Moves.state {h : HostType} {a b : Stage} {v w : Workplace Store}
    (hm : Moves readOnly catalog settings h a v b w) :
    (w.state = v.state ∧ ∀ name, b = .through (.ok name) → a = b) ∨
      ∃ bean, outcomeOf readOnly catalog settings h = .ok bean ∧ b = .through (.ok bean.name) ∧
        w.state = v.state.put bean.name bean.source := by
  cases hm with
  | announce => exact Or.inl ⟨rfl, by simp⟩
  | extract => exact Or.inl ⟨rfl, by simp⟩
  | fail => exact Or.inl ⟨rfl, by simp⟩
  | deliver _ hb => exact Or.inr ⟨_, hb, rfl, rfl⟩
  | complain => exact Or.inl ⟨rfl, by simp⟩
  | rest => exact Or.inl ⟨rfl, by simp⟩

theorem Moves.through {h : HostType} {outcome : Except GenerationError String} {b : Stage}
    {v w : Workplace Store}
    (hm : Moves readOnly catalog settings h (.through outcome) v b w) : b = .through outcome := by
  cases hm with
  | fail _ hs => rcases hs with hs | ⟨s, hs⟩ <;> cases hs
  | rest => rfl

/-! ## What holds at every moment -/

def about (subject : String) (ds : List Diagnostic) : List Diagnostic :=
  ds.filter (·.subject == subject)

theorem about_append (subject : String) (a b : List Diagnostic) :
    about subject (a ++ b) = about subject a ++ about subject b := List.filter_append ..

theorem about_eq_self {subject : String} {ds : List Diagnostic}
    (h : ∀ d ∈ ds, d.subject = subject) : about subject ds = ds :=
  List.filter_eq_self.mpr fun d hd => by simpa using h d hd

theorem about_eq_nil {subject : String} {ds : List Diagnostic}
    (h : ∀ d ∈ ds, d.subject ≠ subject) : about subject ds = [] :=
  List.filter_eq_nil_iff.mpr fun d hd => by simpa using h d hd

/-- The stages of the marked types explain the store and the diagnostics. `events` is what had
happened before the pass. -/
structure Underway (events : List Event) (p : Pass Store) : Prop where
  fits : ∀ h ∈ catalog.eligible, Fits readOnly catalog settings h (p.stage h)
  /-- Every source is the bean of a type that is through. -/
  stored : ∀ key source, p.workplace.state.get? key = some source →
    ∃ h ∈ catalog.eligible, outcomeOf readOnly catalog settings h = .ok ⟨key, source⟩ ∧
      p.stage h = .through (.ok key)
  /-- No bean that is through is lost, although another one can take its place. -/
  kept : ∀ h ∈ catalog.eligible, ∀ b, outcomeOf readOnly catalog settings h = .ok b →
    p.stage h = .through (.ok b.name) → p.workplace.state.get? b.name ≠ none
  told : ∀ h ∈ catalog.eligible, about h.name (diagnosticsOf p.workplace.events) =
    about h.name (diagnosticsOf events) ++ toldUpTo h (p.stage h)
  silent : ∀ subject, (∀ h ∈ catalog.eligible, h.name ≠ subject) →
    about subject (diagnosticsOf p.workplace.events) = about subject (diagnosticsOf events)

theorem Underway.opened (events : List Event) :
    Underway readOnly catalog settings events (opened catalog settings ⟨.empty, events⟩) where
  fits _ _ := trivial
  stored key source h := by simp [Interleaving.opened, Pass.start, Store.get?, Store.empty] at h
  kept _ _ _ _ h := by cases h
  told h _ := by simp [Interleaving.opened, Pass.start, Event.diagnostic?, toldUpTo]
  silent subject _ := by simp [Interleaving.opened, Pass.start, Event.diagnostic?]

/-- `q` is `p` after a step of `h`: the type makes one of its moves, and no other type does. -/
structure Takes (h : HostType) (p q : Pass Store) : Prop where
  moves : Moves readOnly catalog settings h (p.stage h) p.workplace (q.stage h) q.workplace
  others : ∀ k, k ≠ h → q.stage k = p.stage k

variable {readOnly catalog settings} {events : List Event} {p q : Pass Store} {h : HostType}

theorem step_takes (hf : Fits readOnly catalog settings h (p.stage h)) :
    Takes readOnly catalog settings h p (p.step (Store.sink readOnly) catalog settings h) where
  moves := by
    have hm := advance_moves readOnly catalog settings hf p.workplace
    simpa [Pass.step, Pass.put] using hm
  others k hk := by simp [Pass.step, Pass.put, hk]

/-- A bean that is through stays through, also if the step is one of its own type. -/
theorem Takes.through (ht : Takes readOnly catalog settings h p q) {k : HostType}
    {outcome : Except GenerationError String} (hk : p.stage k = .through outcome) :
    q.stage k = .through outcome := by
  by_cases he : k = h
  · subst he
    have hm := ht.moves
    rw [hk] at hm
    exact hm.through
  · rw [ht.others k he, hk]

theorem Takes.fits (ht : Takes readOnly catalog settings h p q)
    (hu : Underway readOnly catalog settings events p) :
    ∀ k ∈ catalog.eligible, Fits readOnly catalog settings k (q.stage k) := by
  intro k hk
  by_cases he : k = h
  · rw [he]
    exact ht.moves.fits
  · rw [ht.others k he]
    exact hu.fits k hk

theorem Takes.stored (ht : Takes readOnly catalog settings h p q) (hh : h ∈ catalog.eligible)
    (hu : Underway readOnly catalog settings events p) :
    ∀ key source, q.workplace.state.get? key = some source →
      ∃ k ∈ catalog.eligible, outcomeOf readOnly catalog settings k = .ok ⟨key, source⟩ ∧
        q.stage k = .through (.ok key) := by
  intro key source hg
  have hold : p.workplace.state.get? key = some source → ∃ k ∈ catalog.eligible,
      outcomeOf readOnly catalog settings k = .ok ⟨key, source⟩ ∧
        q.stage k = .through (.ok key) := by
    intro hp
    obtain ⟨k, hk, ho, hs⟩ := hu.stored key source hp
    exact ⟨k, hk, ho, ht.through hs⟩
  rcases ht.moves.state with ⟨hst, -⟩ | ⟨bean, ho, hb, hst⟩
  · exact hold (hst ▸ hg)
  · rw [hst, Store.get?_put] at hg
    split at hg
    · rename_i hname
      cases hg
      subst hname
      exact ⟨h, hh, ho, hb⟩
    · exact hold hg

theorem Takes.kept (ht : Takes readOnly catalog settings h p q)
    (hu : Underway readOnly catalog settings events p) :
    ∀ k ∈ catalog.eligible, ∀ b, outcomeOf readOnly catalog settings k = .ok b →
      q.stage k = .through (.ok b.name) → q.workplace.state.get? b.name ≠ none := by
  intro k hk b hb hs
  rcases ht.moves.state with ⟨hst, hsame⟩ | ⟨bean, ho, -, hst⟩
  · have hp : p.stage k = .through (.ok b.name) := by
      by_cases he : k = h
      · rw [he] at hs ⊢
        rw [hsame _ hs, hs]
      · rw [← ht.others k he, hs]
    rw [hst]
    exact hu.kept k hk b hb hp
  · rw [hst, Store.get?_put]
    -- under the same name the bean is replaced, but the key stays taken
    by_cases hn : bean.name = b.name
    · simp [hn]
    · have hp : p.stage k = .through (.ok b.name) := by
        have he : k ≠ h := by
          intro he
          rw [he, ho] at hb
          cases hb
          exact hn rfl
        rw [← ht.others k he, hs]
      rw [if_neg hn]
      exact hu.kept k hk b hb hp

theorem Takes.told (ht : Takes readOnly catalog settings h p q) (hh : h ∈ catalog.eligible)
    (hu : Underway readOnly catalog settings events p) :
    ∀ k ∈ catalog.eligible, about k.name (diagnosticsOf q.workplace.events) =
      about k.name (diagnosticsOf events) ++ toldUpTo k (q.stage k) := by
  intro k hk
  obtain ⟨new, hd, hn, hsub⟩ := ht.moves.diagnostics
  rw [hd, about_append, hu.told k hk, List.append_assoc]
  by_cases he : k = h
  · subst he
    rw [about_eq_self hsub, hn]
  · have hne : h.name ≠ k.name := fun hname => he
      (eq_of_name_eq (mem_types_of_mem_eligible hk) (mem_types_of_mem_eligible hh) hname.symm)
    have hnil : about k.name new = [] := about_eq_nil fun d hd => (hsub d hd).symm ▸ hne
    rw [hnil, ht.others k he, List.append_nil]

theorem Takes.silent (ht : Takes readOnly catalog settings h p q) (hh : h ∈ catalog.eligible)
    (hu : Underway readOnly catalog settings events p) :
    ∀ subject, (∀ k ∈ catalog.eligible, k.name ≠ subject) →
      about subject (diagnosticsOf q.workplace.events) = about subject (diagnosticsOf events) := by
  intro subject hnone
  obtain ⟨new, hd, -, hsub⟩ := ht.moves.diagnostics
  have hnil : about subject new = [] := about_eq_nil fun d hd => (hsub d hd).symm ▸ hnone h hh
  rw [hd, about_append, hu.silent subject hnone, hnil, List.append_nil]

theorem Underway.step (hu : Underway readOnly catalog settings events p)
    (hh : h ∈ catalog.eligible) :
    Underway readOnly catalog settings events
      (p.step (Store.sink readOnly) catalog settings h) := by
  have ht := step_takes (hu.fits h hh)
  exact ⟨ht.fits hu, ht.stored hh hu, ht.kept hu, ht.told hh hu, ht.silent hh hu⟩

theorem Underway.follow (hu : Underway readOnly catalog settings events p)
    {schedule : List HostType} (hs : ∀ h ∈ schedule, h ∈ catalog.eligible) :
    Underway readOnly catalog settings events
      (p.follow (Store.sink readOnly) catalog settings schedule) :=
  follow_preserves (Store.sink readOnly) catalog settings (fun _ hq _ hh => hq.step hh) hu hs

/-! ## What holds at the end -/

theorem Underway.stage_eq (hu : Underway readOnly catalog settings events p)
    (ho : IsOver p catalog.eligible) (hh : h ∈ catalog.eligible) :
    p.stage h = .through ((outcomeOf readOnly catalog settings h).map Bean.name) := by
  obtain ⟨outcome, hs⟩ := ho h hh
  have hf := hu.fits h hh
  rw [hs] at hf ⊢
  rw [show outcome = _ from hf]

theorem Underway.report_eq (hu : Underway readOnly catalog settings events p)
    (ho : IsOver p catalog.eligible) (w : Workplace Store) :
    p.report catalog.eligible = (run (Store.sink readOnly) catalog settings w).1 := by
  rw [run_report]
  unfold Pass.report Pass.outcomes
  congr 1
  rw [← List.filterMap_eq_map]
  refine List.filterMap_congr fun h hh => ?_
  rw [hu.stage_eq ho hh]
  rfl

theorem Underway.get?_ne_none_iff (hu : Underway readOnly catalog settings events p)
    (ho : IsOver p catalog.eligible) (key : String) :
    p.workplace.state.get? key ≠ none ↔
      key ∈ (beansOf readOnly catalog settings catalog.eligible).map Bean.name := by
  rw [List.mem_map]
  constructor
  · intro hk
    obtain ⟨source, hs⟩ := Option.ne_none_iff_exists'.mp hk
    obtain ⟨h, hh, hb, -⟩ := hu.stored key source hs
    exact ⟨_, (mem_beansOf ..).mpr ⟨h, hh, hb⟩, rfl⟩
  · rintro ⟨b, hb, rfl⟩
    obtain ⟨h, hh, hb⟩ := (mem_beansOf ..).mp hb
    exact hu.kept h hh b hb (by rw [hu.stage_eq ho hh, hb]; rfl)

theorem toldUpTo_through (h : HostType) (outcome : Except GenerationError Bean) :
    toldUpTo h (.through (outcome.map Bean.name)) = told h outcome := by
  cases outcome <;> rfl

theorem told_subject (h : HostType) (outcome : Except GenerationError Bean) :
    ∀ d ∈ told h outcome, d.subject = h.name := by
  cases outcome <;> simp [Generation.told]

theorem about_toldAbout_eq_nil {hosts : List HostType} {subject : String}
    (hn : ∀ k ∈ hosts, k.name ≠ subject) :
    about subject (toldAbout readOnly catalog settings hosts) = [] := by
  refine about_eq_nil fun d hd => ?_
  obtain ⟨k, hk, hd⟩ := List.mem_flatMap.mp hd
  rw [told_subject k _ d hd]
  exact hn k hk

/-- What a pass tells about one type is all that is told about its name. -/
theorem about_toldAbout {hosts : List HostType} (hn : (hosts.map (·.name)).Nodup)
    (hh : h ∈ hosts) :
    about h.name (toldAbout readOnly catalog settings hosts) =
      told h (outcomeOf readOnly catalog settings h) := by
  induction hosts with
  | nil => cases hh
  | cons k rest ih =>
    obtain ⟨hk, hrest⟩ := List.nodup_cons.mp hn
    have hcons : toldAbout readOnly catalog settings (k :: rest) =
      told k (outcomeOf readOnly catalog settings k) ++
        toldAbout readOnly catalog settings rest := rfl
    rw [hcons, about_append]
    rcases List.mem_cons.mp hh with rfl | hm
    · have hnil : about h.name (toldAbout readOnly catalog settings rest) = [] :=
        about_toldAbout_eq_nil fun j hj he => hk (List.mem_map.mpr ⟨j, hj, he⟩)
      rw [about_eq_self (told_subject h _), hnil, List.append_nil]
    · have hnil : about h.name (told k (outcomeOf readOnly catalog settings k)) = [] :=
        about_eq_nil fun d hd he =>
          hk (List.mem_map.mpr ⟨h, hm, by rw [← he, told_subject k _ d hd]⟩)
      rw [hnil, ih hrest hm, List.nil_append]

/-- About every subject the same is told as by the pass that takes one type after another. -/
theorem Underway.about_eq (hu : Underway readOnly catalog settings events p)
    (ho : IsOver p catalog.eligible) (subject : String) :
    about subject (diagnosticsOf p.workplace.events) =
      about subject (diagnosticsOf
        (run (Store.sink readOnly) catalog settings ⟨.empty, events⟩).2.events) := by
  rw [(run_spec readOnly catalog settings ⟨.empty, events⟩).2.2.2, about_append]
  by_cases hs : ∃ h ∈ catalog.eligible, h.name = subject
  · obtain ⟨h, hh, rfl⟩ := hs
    rw [hu.told h hh, hu.stage_eq ho hh, toldUpTo_through, about_toldAbout (nodup_names catalog) hh]
  · have hnone : ∀ h ∈ catalog.eligible, h.name ≠ subject := fun h hh he => hs ⟨h, hh, he⟩
    rw [hu.silent subject hnone, about_toldAbout_eq_nil hnone, List.append_nil]

theorem perm_of_about_eq {a b : List Diagnostic}
    (h : ∀ subject, about subject a = about subject b) : a.Perm b := by
  refine List.perm_iff_count.mpr fun d => ?_
  have hc : ∀ ds : List Diagnostic, (about d.subject ds).count d = ds.count d :=
    fun ds => List.count_filter (by simp)
  rw [← hc a, ← hc b, h]

/-- A pass that is over agrees with the one that takes one type after another, `report` and `after`
being the results of the latter. -/
structure Agrees (readOnly : List String) (catalog : Catalog) (settings : Settings)
    (p : Pass Store) (report : Report) (after : Workplace Store) : Prop where
  report_eq : p.report catalog.eligible = report
  keys_iff : ∀ key, key ∈ p.workplace.state.keys ↔ key ∈ after.state.keys
  /-- Every source was handed over under its key by a type that succeeds. -/
  source : ∀ key source, p.workplace.state.get? key = some source →
    ∃ h ∈ catalog.eligible, outcomeOf readOnly catalog settings h = .ok ⟨key, source⟩
  /-- A key that belongs to one type alone holds the source of this type. -/
  sole_source : ∀ h ∈ catalog.eligible, ∀ b, outcomeOf readOnly catalog settings h = .ok b →
    (∀ k ∈ catalog.eligible, ∀ c, outcomeOf readOnly catalog settings k = .ok c →
      c.name = b.name → k = h) →
    p.workplace.state.get? b.name = some b.source
  about_eq : ∀ subject, about subject (diagnosticsOf p.workplace.events) =
    about subject (diagnosticsOf after.events)
  /-- No diagnostic is lost or doubled. -/
  perm : (diagnosticsOf p.workplace.events).Perm (diagnosticsOf after.events)

theorem mem_keys_iff {s : Store} {key : String} : key ∈ s.keys ↔ s.get? key ≠ none := by
  unfold Store.keys Store.get?
  rw [Std.TreeMap.mem_keys]
  simp

theorem Underway.agrees (hu : Underway readOnly catalog settings events p)
    (ho : IsOver p catalog.eligible) :
    Agrees readOnly catalog settings p
      (run (Store.sink readOnly) catalog settings ⟨.empty, events⟩).1
      (run (Store.sink readOnly) catalog settings ⟨.empty, events⟩).2 := by
  refine ⟨hu.report_eq ho _, ?_, ?_, ?_, hu.about_eq ho, perm_of_about_eq (hu.about_eq ho)⟩
  · intro key
    rw [mem_keys_iff, mem_keys_iff, hu.get?_ne_none_iff ho]
    rw [(run_spec readOnly catalog settings ⟨.empty, events⟩).2.2.1, get?_keepAll_ne_none_iff]
    simp [Store.get?, Store.empty]
  · intro key source hs
    obtain ⟨h, hh, hb, -⟩ := hu.stored key source hs
    exact ⟨h, hh, hb⟩
  · intro h hh b hb hsole
    have hk : p.workplace.state.get? b.name ≠ none := by
      rw [hu.get?_ne_none_iff ho]
      exact List.mem_map.mpr ⟨b, (mem_beansOf ..).mpr ⟨h, hh, hb⟩, rfl⟩
    obtain ⟨source, hs⟩ := Option.ne_none_iff_exists'.mp hk
    obtain ⟨k, hk, hc, -⟩ := hu.stored b.name source hs
    have hkh := hsole k hk _ hc rfl
    rw [hkh, hb] at hc
    have hsource : b.source = source := congrArg Bean.source (Except.ok.inj hc)
    rw [hs, hsource]

end

/-- Whatever the order is in which the steps of the marked types are taken, a pass into an empty
store agrees with the one that takes one type after another, which is one of these passes. -/
theorem interleavings_agree (readOnly : List String) (catalog : Catalog) (settings : Settings)
    (events : List Event) :
    let sequential := run (Store.sink readOnly) catalog settings ⟨.empty, events⟩
    let after := fun schedule => (opened catalog settings ⟨.empty, events⟩).follow
      (Store.sink readOnly) catalog settings schedule
    (∀ schedule, Interleaves (Store.sink readOnly) catalog settings ⟨.empty, events⟩ schedule →
      Agrees readOnly catalog settings (after schedule) sequential.1 sequential.2) ∧
    ∃ schedule, Interleaves (Store.sink readOnly) catalog settings ⟨.empty, events⟩ schedule ∧
      (after schedule).workplace = sequential.2 := by
  refine ⟨fun schedule hs => ?_, inOrder catalog.eligible, ?_, ?_⟩
  · exact ((Underway.opened readOnly catalog settings events).follow hs.marked).agrees hs.ended
  · exact interleaves_of_count _ _ _ _ (fun h => mem_inOrder) fun h => four_le_count_inOrder
  · exact (follow_inOrder _ _ _ (nodup_eligible catalog) _ fun h _ => rfl).1

end RecordBean.Interleaving
