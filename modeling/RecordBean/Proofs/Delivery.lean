import RecordBean.Proofs.Accounting

/-! # Deliveries

What is handed over for a type is settled before any destination is asked: by its extraction and its
rendering (`deliveryOf`). A destination can only take it or refuse it, so the same deliveries are
handed over in every pass, whatever the destination and whatever it held before; passes with
different destinations differ in what the destinations refuse and in nothing else. -/

namespace RecordBean.Generation

variable {σ : Type}

/-- What is handed over for one type, or why there is nothing to hand over. -/
def deliveryOf (catalog : Catalog) (settings : Settings) (h : HostType) :
    Except GenerationError Delivery :=
  match extract catalog settings h with
  | .error e => .error (.extract e)
  | .ok s => (prepare settings s).mapError .render

/-- What becomes of a type once the destination has answered. -/
def answered (d : Delivery) : Except EmitError (List Event) → Except GenerationError String
  | .ok _ => .ok d.qualifiedName
  | .error e => .error (.emit e)

/-- Hand over what there is to hand over. -/
def handOver (sink : Sink σ) : Except GenerationError Delivery → σ →
    Except GenerationError String × σ
  | .error e, state => (.error e, state)
  | .ok d, state => (answered d (sink.deliver d state).1, (sink.deliver d state).2)

/-- Whether a type failed because its delivery was refused. -/
def IsRefusal : GenerationError → Prop
  | .emit _ => True
  | _ => False

/-! ## One type -/

theorem prepare_eq_ok_iff {settings : Settings} {s : Schema} {d : Delivery} :
    prepare settings s = .ok d ↔ renderOwn s settings.header = .ok d.source ∧
      d.package = s.packageName ∧ d.className = s.beanName := by
  unfold prepare
  cases hr : renderOwn s settings.header with
  | error e => simp [Except.map]
  | ok source =>
    simp only [Except.map, Except.ok.injEq]
    constructor
    · rintro rfl
      exact ⟨rfl, rfl, rfl⟩
    · rintro ⟨hs, hp, hc⟩
      obtain ⟨package, className, text⟩ := d
      rw [← hp, ← hc, hs]

theorem deliveryOf_eq_ok_iff {catalog : Catalog} {settings : Settings} {h : HostType}
    {d : Delivery} :
    deliveryOf catalog settings h = .ok d ↔
      ∃ s, extract catalog settings h = .ok s ∧ renderOwn s settings.header = .ok d.source ∧
        d.package = s.packageName ∧ d.className = s.beanName := by
  unfold deliveryOf
  cases extract catalog settings h with
  | error e => simp
  | ok s =>
    simp only [Except.ok.injEq, exists_eq_left', ← prepare_eq_ok_iff]
    cases prepare settings s <;> simp [Except.mapError]

theorem qualifiedName_of_prepare {settings : Settings} {s : Schema} {d : Delivery}
    (hp : prepare settings s = .ok d) : d.qualifiedName = s.beanQualifiedName := by
  obtain ⟨-, hpackage, hclass⟩ := prepare_eq_ok_iff.mp hp
  unfold Delivery.qualifiedName Schema.beanQualifiedName
  rw [hpackage, hclass]

/-- A delivery bears the name of the bean of its schema. -/
theorem qualifiedName_of_extract {catalog : Catalog} {settings : Settings} {h : HostType}
    {s : Schema} {d : Delivery} (hs : extract catalog settings h = .ok s)
    (hd : deliveryOf catalog settings h = .ok d) : d.qualifiedName = s.beanQualifiedName := by
  obtain ⟨s', hs', hdelivery⟩ := deliveryOf_eq_ok_iff.mp hd
  rw [hs] at hs'
  cases hs'
  exact qualifiedName_of_prepare (prepare_eq_ok_iff.mpr hdelivery)

theorem not_isRefusal_of_deliveryOf {catalog : Catalog} {settings : Settings} {h : HostType}
    {e : GenerationError} (hd : deliveryOf catalog settings h = .error e) : ¬ IsRefusal e := by
  unfold deliveryOf at hd
  cases hs : extract catalog settings h with
  | error x =>
    rw [hs] at hd
    cases hd
    exact id
  | ok s =>
    cases hp : prepare settings s with
    | error x =>
      rw [hs] at hd
      simp only [hp, Except.mapError, Except.error.injEq] at hd
      rw [← hd]
      exact id
    | ok d =>
      rw [hs] at hd
      simp only [hp, Except.mapError] at hd
      cases hd

/-- Of the settings only the package of bare names and the header have a part in a delivery. -/
theorem deliveryOf_congr (catalog : Catalog) {a b : Settings}
    (hp : a.defaultPackage = b.defaultPackage) (hh : a.header = b.header) (h : HostType) :
    deliveryOf catalog a h = deliveryOf catalog b h := by
  unfold deliveryOf extract Extraction.packageOf prepare
  rw [hp, hh]

/-- Behind the extraction, the work on a type is to hand its delivery over. -/
theorem finish_handOver (sink : Sink σ) {catalog : Catalog} {settings : Settings} {h : HostType}
    {s : Schema} (hs : extract catalog settings h = .ok s) (w : Workplace σ) :
    ((finish sink settings s w).1, (finish sink settings s w).2.state) =
      handOver sink (deliveryOf catalog settings h) w.state := by
  simp only [finish, deliveryOf, hs]
  cases hp : prepare settings s with
  | error e => rfl
  | ok d =>
    have hname := qualifiedName_of_prepare hp
    simp only [Except.mapError, handOver, Workplace.deliver]
    cases hd : sink.deliver d w.state with
    | mk answer state =>
      cases answer with
      | error e => rfl
      | ok told => simp [answered, hname]

theorem deliveryOf_of_extract_error {catalog : Catalog} {settings : Settings} {h : HostType}
    {e : ExtractError} (he : extract catalog settings h = .error e) :
    deliveryOf catalog settings h = .error (.extract e) := by
  unfold deliveryOf
  rw [he]

/-- The work on one type is to hand its delivery over. -/
theorem generateOne_handOver (sink : Sink σ) (catalog : Catalog) (settings : Settings)
    (h : HostType) (w : Workplace σ) :
    ((generateOne sink catalog settings h w).1, (generateOne sink catalog settings h w).2.state) =
      handOver sink (deliveryOf catalog settings h) w.state := by
  simp only [generateOne, attempt]
  cases hs : extract catalog settings h with
  | error e =>
    rw [deliveryOf_of_extract_error hs]
    rfl
  | ok s =>
    have hfinish := finish_handOver sink hs ((w.record (.reported (opening h))).record
      (.schemaExtracted s.qualifiedName s.fields.length))
    rw [record_state, record_state] at hfinish
    rw [← hfinish]
    simp only
    generalize finish sink settings s _ = r
    obtain ⟨_ | _, _⟩ := r <;> rfl

theorem generateOne_state (sink : Sink σ) (catalog : Catalog) (settings : Settings) (h : HostType)
    (w : Workplace σ) :
    (generateOne sink catalog settings h w).2.state =
      (handOver sink (deliveryOf catalog settings h) w.state).2 :=
  congrArg Prod.snd (generateOne_handOver sink catalog settings h w)

/-! ## Reports -/

theorem nodup_names (catalog : Catalog) : (catalog.eligible.map (·.name)).Nodup :=
  catalog.distinct.sublist (List.filter_sublist.map _)

theorem mem_failed_ofOutcomes {outcomes : List (String × Except GenerationError String)}
    {name : String} {e : GenerationError} :
    (name, e) ∈ (Report.ofOutcomes outcomes).failed ↔ (name, .error e) ∈ outcomes := by
  unfold Report.ofOutcomes
  rw [List.mem_filterMap]
  constructor
  · rintro ⟨⟨n, outcome⟩, hm, ho⟩
    cases outcome with
    | ok bean => cases ho
    | error x =>
      cases ho
      exact hm
  · intro hm
    exact ⟨_, hm, rfl⟩

/-- Whether a type is not among the failures. -/
def passed (failed : List (String × GenerationError)) (h : HostType) : Bool :=
  !(failed.map Prod.fst).contains h.name

theorem passed_eq_true_iff {failed : List (String × GenerationError)} {h : HostType} :
    passed failed h = true ↔ h.name ∉ failed.map Prod.fst := by
  unfold passed
  rw [Bool.not_eq_true', List.contains_eq_mem, decide_eq_false_iff_not]

section
variable {hosts : List HostType} {outcome : HostType → Except GenerationError String}

/-- Names are distinct, so a type is among the failures exactly if it comes to an error. -/
theorem mem_failed_of_nodup (hn : (hosts.map (·.name)).Nodup) {h : HostType} (hh : h ∈ hosts)
    {e : GenerationError} :
    (h.name, e) ∈ (Report.ofOutcomes (hosts.map fun k => (k.name, outcome k))).failed ↔
      outcome h = .error e := by
  rw [mem_failed_ofOutcomes, List.mem_map]
  constructor
  · rintro ⟨k, hk, he⟩
    obtain ⟨hname, hout⟩ := Prod.mk.inj he
    rw [← List.inj_on_of_nodup_map hn hk hh hname]
    exact hout
  · intro ho
    exact ⟨h, hh, by rw [ho]⟩

theorem passed_iff (hn : (hosts.map (·.name)).Nodup) {h : HostType} (hh : h ∈ hosts) :
    passed (Report.ofOutcomes (hosts.map fun k => (k.name, outcome k))).failed h = true ↔
      ∃ bean, outcome h = .ok bean := by
  rw [passed_eq_true_iff, List.mem_map]
  constructor
  · intro hno
    cases ho : outcome h with
    | ok bean => exact ⟨bean, rfl⟩
    | error e => exact absurd ⟨_, (mem_failed_of_nodup hn hh).mpr ho, rfl⟩ hno
  · rintro ⟨bean, ho⟩ ⟨⟨name, e⟩, hm, rfl⟩
    rw [(mem_failed_of_nodup hn hh).mp hm] at ho
    cases ho

/-- The report names, in the order of the types, the beans of those that it does not list as
failures. -/
theorem generated_ofOutcomes (hn : (hosts.map (·.name)).Nodup) {name? : HostType → Option String}
    (hname : ∀ h ∈ hosts, ∀ bean, outcome h = .ok bean → name? h = some bean) :
    let report := Report.ofOutcomes (hosts.map fun h => (h.name, outcome h))
    report.generated = (hosts.filter (passed report.failed)).filterMap name? := by
  intro report
  have hgenerated : report.generated = hosts.filterMap fun h => (outcome h).toOption := by
    unfold report Report.ofOutcomes
    rw [List.filterMap_map]
    refine List.filterMap_congr fun h _ => ?_
    rw [Function.comp_apply]
    cases outcome h <;> rfl
  rw [hgenerated, List.filterMap_filter]
  refine List.filterMap_congr fun h hh => ?_
  have hpassed : passed report.failed h = true ↔ _ := passed_iff hn hh
  cases ho : outcome h with
  | ok bean => rw [if_pos (hpassed.mpr ⟨bean, ho⟩), hname h hh bean ho]; rfl
  | error e =>
    have hno : ¬ passed report.failed h = true := by
      rw [hpassed, ho]
      simp
    rw [if_neg hno]
    rfl

end

/-! ## Where nothing is refused -/

section
variable (catalog : Catalog) (settings : Settings)

/-- The name under which a type is reported if its delivery is taken. -/
def reportedName? (h : HostType) : Option String :=
  (deliveryOf catalog settings h).toOption.map Delivery.qualifiedName

/-- What becomes of a type where nothing is refused. -/
def unrefused (h : HostType) : Except GenerationError String :=
  (deliveryOf catalog settings h).map Delivery.qualifiedName

/-- The report of a pass in which nothing is refused. -/
def unrefusedReport : Report :=
  .ofOutcomes (catalog.eligible.map fun h => (h.name, unrefused catalog settings h))

theorem reportedName?_of_unrefused {h : HostType} {bean : String}
    (ho : unrefused catalog settings h = .ok bean) :
    reportedName? catalog settings h = some bean := by
  unfold unrefused at ho
  unfold reportedName?
  cases hd : deliveryOf catalog settings h with
  | error e =>
    rw [hd] at ho
    cases ho
  | ok d =>
    rw [hd] at ho
    cases ho
    rfl

/-- A type comes out as if nothing were refused, or its delivery is refused. -/
theorem handOver_cases (sink : Sink σ) (h : HostType) (state : σ) :
    (handOver sink (deliveryOf catalog settings h) state).1 = unrefused catalog settings h ∨
      ∃ e, IsRefusal e ∧
        (handOver sink (deliveryOf catalog settings h) state).1 = .error e := by
  unfold unrefused
  cases deliveryOf catalog settings h with
  | error e => exact Or.inl rfl
  | ok d =>
    simp only [handOver]
    cases (sink.deliver d state).1 with
    | ok told => exact Or.inl rfl
    | error e => exact Or.inr ⟨.emit e, trivial, rfl⟩

/-- A store without read-only classes refuses nothing. -/
theorem handOver_store_nil (h : HostType) (state : Store) :
    (handOver (Store.sink []) (deliveryOf catalog settings h) state).1 =
      unrefused catalog settings h := by
  unfold unrefused
  cases deliveryOf catalog settings h with
  | error e => rfl
  | ok d => simp [handOver, Store.sink, answered, Except.map]

end

theorem mem_failed_unrefusedReport {catalog : Catalog} {settings : Settings} {name : String}
    {e : GenerationError} :
    (name, e) ∈ (unrefusedReport catalog settings).failed ↔
      ∃ h ∈ catalog.eligible, h.name = name ∧ deliveryOf catalog settings h = .error e := by
  unfold unrefusedReport
  rw [mem_failed_ofOutcomes, List.mem_map]
  refine exists_congr fun h => and_congr_right fun _ => ?_
  unfold unrefused
  cases deliveryOf catalog settings h <;> simp [Except.map]

theorem mem_generated_unrefusedReport {catalog : Catalog} {settings : Settings} {h : HostType}
    {d : Delivery} (hh : h ∈ catalog.eligible) (hd : deliveryOf catalog settings h = .ok d) :
    d.qualifiedName ∈ (unrefusedReport catalog settings).generated := by
  have hu : unrefused catalog settings h = .ok d.qualifiedName := by
    unfold unrefused
    rw [hd]
    rfl
  refine List.mem_filterMap.mpr ⟨_, List.mem_map.mpr ⟨h, hh, rfl⟩, ?_⟩
  rw [hu]

/-- A marked type has a delivery exactly if it is not listed as a failure. -/
theorem exists_deliveryOf_iff {catalog : Catalog} {settings : Settings} {h : HostType}
    (hh : h ∈ catalog.eligible) :
    (∃ d, deliveryOf catalog settings h = .ok d) ↔
      h.name ∉ (unrefusedReport catalog settings).failed.map Prod.fst := by
  unfold unrefusedReport
  rw [← passed_eq_true_iff, passed_iff (nodup_names catalog) hh]
  unfold unrefused
  cases deliveryOf catalog settings h <;> simp [Except.map]

/-! ## All that is handed over -/

/-- A destination that keeps, besides, a list of all that is handed over to it. -/
def recorded (sink : Sink σ) : Sink (σ × List Delivery) where
  deliver d state :=
    ((sink.deliver d state.1).1, (sink.deliver d state.1).2, state.2 ++ [d])

/-- The state of a destination after deliveries. -/
def stateAfter (sink : Sink σ) (state : σ) (ds : List Delivery) : σ :=
  ds.foldl (fun state d => (sink.deliver d state).2) state

theorem stateAfter_append (sink : Sink σ) (state : σ) (a b : List Delivery) :
    stateAfter sink state (a ++ b) = stateAfter sink (stateAfter sink state a) b :=
  List.foldl_append

/-- The deliveries of types, in order. -/
def deliveriesOf (catalog : Catalog) (settings : Settings) (hosts : List HostType) :
    List Delivery := hosts.filterMap fun h => (deliveryOf catalog settings h).toOption

theorem handOver_recorded (sink : Sink σ) (outcome : Except GenerationError Delivery)
    (state : σ × List Delivery) :
    handOver (recorded sink) outcome state =
      ((handOver sink outcome state.1).1, (handOver sink outcome state.1).2,
        state.2 ++ outcome.toOption.toList) := by
  cases outcome with
  | error e => simp [handOver, Except.toOption]
  | ok d => rfl

theorem deliveriesOf_cons (catalog : Catalog) (settings : Settings) (h : HostType)
    (rest : List HostType) :
    deliveriesOf catalog settings (h :: rest) =
      (deliveryOf catalog settings h).toOption.toList ++ deliveriesOf catalog settings rest := by
  unfold deliveriesOf
  rw [List.filterMap_cons]
  cases (deliveryOf catalog settings h).toOption <;> rfl

/-- One type after another, the deliveries are handed over in the order of the types. -/
theorem generateEach_recorded (sink : Sink σ) (catalog : Catalog) (settings : Settings)
    (hosts : List HostType) (w : Workplace (σ × List Delivery)) :
    (generateEach (recorded sink) catalog settings hosts w).2.state.2 =
      w.state.2 ++ deliveriesOf catalog settings hosts := by
  induction hosts generalizing w with
  | nil => simp [generateEach, deliveriesOf]
  | cons h rest ih =>
    have hstate := generateOne_state (recorded sink) catalog settings h w
    rw [handOver_recorded] at hstate
    simp only [generateEach, ih, hstate, deliveriesOf_cons, List.append_assoc]

end RecordBean.Generation
