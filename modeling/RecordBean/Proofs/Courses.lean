import RecordBean.Interleaving
import RecordBean.Proofs.Delivery

/-! # The courses of a pass

What holds of a pass whichever of its courses it takes. Taking one type after another is one of the
courses, and the only one of settings that are not parallel. For all others, what a delivery
preserves and what the destination answers to it are enough: one step keeps what is known about the
shared state and about the stage of every type (`Governed.step`), so a whole schedule does
(`Governed.follow`), and at the end this says what each type has come to (`Course.outcomes`). -/

namespace RecordBean.Interleaving
open RecordBean.Generation

/-! ## Schedules that come to an end -/

section
variable {σ : Type} (sink : Sink σ) (catalog : Catalog) (settings : Settings)

/-- What the steps of some types preserve, their schedules preserve. -/
theorem follow_preserves {Q : Pass σ → Prop} {M : HostType → Prop}
    (hstep : ∀ p, Q p → ∀ h, M h → Q (p.step sink catalog settings h)) {p : Pass σ} (hp : Q p)
    {schedule : List HostType} (hs : ∀ h ∈ schedule, M h) :
    Q (p.follow sink catalog settings schedule) := by
  induction schedule generalizing p with
  | nil => exact hp
  | cons h rest ih =>
    have hfirst : Q (p.step sink catalog settings h) := hstep p hp h (hs h List.mem_cons_self)
    exact ih hfirst fun k hk => hs k (List.mem_cons_of_mem h hk)

/-- The steps that a type still has in front of it, at most. -/
def Stage.remaining : Stage → Nat
  | .waiting => 4
  | .announced => 3
  | .extracted _ => 2
  | .failing _ => 1
  | .through _ => 0

theorem remaining_advance (h : HostType) (stage : Stage) (w : Workplace σ) :
    (advance sink catalog settings h stage w).1.remaining ≤ stage.remaining - 1 := by
  cases stage with
  | waiting => exact Nat.le_refl 3
  | announced =>
    simp only [advance]
    cases extract catalog settings h <;> simp [Stage.remaining]
  | extracted s =>
    simp only [advance]
    rcases finish sink settings s w with ⟨_ | _, _⟩ <;> simp [Stage.remaining]
  | failing e => exact Nat.le_refl 0
  | through outcome => exact Nat.le_refl 0

theorem remaining_follow (p : Pass σ) (schedule : List HostType) (h : HostType) :
    ((p.follow sink catalog settings schedule).stage h).remaining ≤
      (p.stage h).remaining - schedule.count h := by
  induction schedule generalizing p with
  | nil => exact Nat.le_refl _
  | cons k rest ih =>
    refine Nat.le_trans (ih (p.step sink catalog settings k)) ?_
    have hstep := remaining_advance sink catalog settings k (p.stage k) p.workplace
    by_cases he : h = k
    · subst he
      rw [List.count_cons_self]
      simp only [Pass.step, Pass.put, if_true]
      omega
    · have hc : (k :: rest).count h = rest.count h := List.count_cons_of_ne (Ne.symm he)
      simp [Pass.step, Pass.put, he, hc]

/-- Four turns for every marked type bring all of them through. -/
theorem interleaves_of_count (w : Workplace σ) {schedule : List HostType}
    (hm : ∀ h ∈ schedule, h ∈ catalog.eligible)
    (hc : ∀ h ∈ catalog.eligible, 4 ≤ schedule.count h) :
    Interleaves sink catalog settings w schedule where
  marked := hm
  ended := by
    intro h hh
    have hr := remaining_follow sink catalog settings (opened catalog settings w) schedule h
    have h4 : ((opened catalog settings w).stage h).remaining = 4 := rfl
    have hcount := hc h hh
    cases hs : ((opened catalog settings w).follow sink catalog settings schedule).stage h with
    | through outcome => exact ⟨outcome, rfl⟩
    | _ =>
      rw [hs, h4] at hr
      simp only [Stage.remaining] at hr
      omega

/-! ## One type after another -/

def turn (h : HostType) (r : Stage × Workplace σ) : Stage × Workplace σ :=
  advance sink catalog settings h r.1 r.2

/-- Four steps are the whole work on a type. -/
theorem turn_four (h : HostType) (w : Workplace σ) :
    turn sink catalog settings h (turn sink catalog settings h (turn sink catalog settings h
      (turn sink catalog settings h (.waiting, w)))) =
      (.through (generateOne sink catalog settings h w).1,
        (generateOne sink catalog settings h w).2) := by
  simp only [turn, advance, generateOne, attempt]
  cases extract catalog settings h with
  | error e => rfl
  | ok s =>
    simp only
    rcases finish sink settings s _ with ⟨_ | _, _⟩ <;> rfl

theorem step_put (p : Pass σ) (h : HostType) (r : Stage × Workplace σ) :
    (p.put h r).step sink catalog settings h = p.put h (turn sink catalog settings h r) := by
  unfold Pass.step Pass.put turn
  simp only [if_true, Pass.mk.injEq, and_true]
  funext k
  split <;> rfl

theorem follow_turns (p : Pass σ) (h : HostType) (hw : p.stage h = .waiting) :
    p.follow sink catalog settings (List.replicate 4 h) =
      p.put h (.through (generateOne sink catalog settings h p.workplace).1,
        (generateOne sink catalog settings h p.workplace).2) := by
  have hp : p.step sink catalog settings h =
      p.put h (turn sink catalog settings h (.waiting, p.workplace)) := by
    unfold Pass.step
    rw [hw]
    rfl
  rw [← turn_four]
  simp only [Pass.follow, List.replicate, List.foldl_cons, List.foldl_nil, hp, step_put]

theorem stage_follow_of_notMem {schedule : List HostType} {h : HostType} (hh : h ∉ schedule)
    (p : Pass σ) : (p.follow sink catalog settings schedule).stage h = p.stage h := by
  refine follow_preserves sink catalog settings (Q := fun q => q.stage h = p.stage h)
    (M := (· ≠ h)) ?_ rfl ?_
  · intro q hq k hk
    rw [← hq]
    simp [Pass.step, Pass.put, Ne.symm hk]
  · intro k hk he
    exact hh (he ▸ hk)

theorem mem_inOrder {hosts : List HostType} {h : HostType} (hh : h ∈ inOrder hosts) :
    h ∈ hosts := by
  obtain ⟨k, hk, hm⟩ := List.mem_flatMap.mp hh
  rw [List.eq_of_mem_replicate hm]
  exact hk

/-- Turns one after another do the work of `generateEach`. -/
theorem follow_inOrder {hosts : List HostType} (hn : hosts.Nodup) (p : Pass σ)
    (hw : ∀ h ∈ hosts, p.stage h = .waiting) :
    let q := p.follow sink catalog settings (inOrder hosts)
    q.workplace = (generateEach sink catalog settings hosts p.workplace).2 ∧
      q.outcomes hosts = (generateEach sink catalog settings hosts p.workplace).1 := by
  induction hosts generalizing p with
  | nil => exact ⟨rfl, rfl⟩
  | cons h rest ih =>
    obtain ⟨hh, hr⟩ := List.nodup_cons.mp hn
    let one := generateOne sink catalog settings h p.workplace
    have hsplit : p.follow sink catalog settings (inOrder (h :: rest)) =
        (p.put h (.through one.1, one.2)).follow sink catalog settings (inOrder rest) := by
      rw [← follow_turns sink catalog settings p h (hw h List.mem_cons_self)]
      exact List.foldl_append
    have hwaiting : ∀ k ∈ rest, (p.put h (.through one.1, one.2)).stage k = .waiting := by
      intro k hk
      have hne : k ≠ h := fun he => hh (he ▸ hk)
      simp [Pass.put, hne, hw k (List.mem_cons_of_mem h hk)]
    obtain ⟨hafter, houtcomes⟩ := ih hr _ hwaiting
    have hstage : ((p.put h (.through one.1, one.2)).follow sink catalog settings
        (inOrder rest)).stage h = .through one.1 := by
      rw [stage_follow_of_notMem sink catalog settings fun hm => hh (mem_inOrder hm)]
      simp [Pass.put]
    rw [hsplit]
    refine ⟨hafter, ?_⟩
    unfold Pass.outcomes at houtcomes ⊢
    rw [List.filterMap_cons, hstage, houtcomes]
    rfl

theorem four_le_count_inOrder {hosts : List HostType} {h : HostType} (hh : h ∈ hosts) :
    4 ≤ (inOrder hosts).count h := by
  induction hosts with
  | nil => cases hh
  | cons k rest ih =>
    have hcons : inOrder (k :: rest) = List.replicate 4 k ++ inOrder rest := rfl
    rw [hcons, List.count_append]
    rcases List.mem_cons.mp hh with rfl | hm
    · rw [List.count_replicate_self]
      exact Nat.le_add_right 4 _
    · exact Nat.le_trans (ih hm) (Nat.le_add_left _ _)

theorem nodup_eligible (catalog : Catalog) : catalog.eligible.Nodup :=
  List.Nodup.of_map _ (nodup_names catalog)

/-- The marked types in any order, one after another. -/
theorem interleaves_inOrder (w : Workplace σ) {hosts : List HostType}
    (hp : hosts.Perm catalog.eligible) :
    Interleaves sink catalog settings w (inOrder hosts) :=
  interleaves_of_count sink catalog settings w (fun _ hh => hp.mem_iff.mp (mem_inOrder hh))
    fun _ hh => four_le_count_inOrder (hp.mem_iff.mpr hh)

/-- One type after another, in catalog order. -/
def Course.sequential (w : Workplace σ) : Course sink catalog settings w where
  schedule := inOrder catalog.eligible
  possible := ⟨interleaves_inOrder sink catalog settings w (List.Perm.refl _), fun _ => rfl⟩

/-- This is the pass of `run`. -/
theorem Course.pass_sequential (w : Workplace σ) :
    (Course.sequential sink catalog settings w).pass = run sink catalog settings w := by
  obtain ⟨hafter, houtcomes⟩ := follow_inOrder sink catalog settings (nodup_eligible catalog)
    (opened catalog settings w) fun _ _ => rfl
  exact Prod.ext (congrArg Report.ofOutcomes houtcomes) hafter

variable {sink catalog settings} in
/-- Settings that are not parallel leave a pass no choice. -/
theorem Course.pass_of_not_parallel (hno : settings.parallel = false) {w : Workplace σ}
    (course : Course sink catalog settings w) : course.pass = run sink catalog settings w := by
  rw [← Course.pass_sequential]
  unfold Course.pass
  rw [course.possible.ordered hno]
  rfl

end

/-! ## What every course preserves -/

section
variable {σ : Type} (sink : Sink σ) (catalog : Catalog) (settings : Settings)

/-- Whether handing over the delivery of a marked type preserves `P` of the destination, and then
brings the type to an outcome of which `A` holds. -/
def Governs (P : σ → Prop) (A : HostType → Except GenerationError String → Prop) : Prop :=
  ∀ h ∈ catalog.eligible, ∀ state, P state →
    P (handOver sink (deliveryOf catalog settings h) state).2 ∧
      A h (handOver sink (deliveryOf catalog settings h) state).1

/-- Whether a stage leads to an outcome of which `A` holds. -/
def Leads (A : HostType → Except GenerationError String → Prop) (h : HostType) : Stage → Prop
  | .waiting | .announced => True
  | .extracted s => extract catalog settings h = .ok s
  | .failing e => A h (.error e)
  | .through outcome => A h outcome

/-- What is known at every moment of a pass. -/
structure Governed (P : σ → Prop) (A : HostType → Except GenerationError String → Prop)
    (p : Pass σ) : Prop where
  state : P p.workplace.state
  leads : ∀ h ∈ catalog.eligible, Leads catalog settings A h (p.stage h)

variable {sink catalog settings} {P : σ → Prop}
  {A : HostType → Except GenerationError String → Prop}

/-- One step of one type. -/
theorem advance_governed (hg : Governs sink catalog settings P A) {h : HostType}
    (hh : h ∈ catalog.eligible) {stage : Stage} (hl : Leads catalog settings A h stage)
    {w : Workplace σ} (hw : P w.state) :
    P (advance sink catalog settings h stage w).2.state ∧
      Leads catalog settings A h (advance sink catalog settings h stage w).1 := by
  have hone := hg h hh w.state hw
  cases stage with
  | waiting => exact ⟨hw, trivial⟩
  | announced =>
    simp only [advance]
    cases hs : extract catalog settings h with
    | error e =>
      rw [deliveryOf_of_extract_error hs] at hone
      exact hone
    | ok s => exact ⟨hw, hs⟩
  | extracted s =>
    rw [← finish_handOver sink hl w] at hone
    simp only [advance]
    generalize finish sink settings s w = r at hone
    obtain ⟨_ | _, _⟩ := r <;> exact hone
  | failing e => exact ⟨hw, hl⟩
  | through outcome => exact ⟨hw, hl⟩

theorem Governed.step (hg : Governs sink catalog settings P A) {p : Pass σ}
    (hp : Governed catalog settings P A p) {h : HostType} (hh : h ∈ catalog.eligible) :
    Governed catalog settings P A (p.step sink catalog settings h) := by
  obtain ⟨hstate, hleads⟩ := advance_governed hg hh (hp.leads h hh) hp.state
  refine ⟨hstate, fun k hk => ?_⟩
  by_cases he : k = h
  · subst he
    simpa [Pass.step, Pass.put] using hleads
  · simpa [Pass.step, Pass.put, he] using hp.leads k hk

theorem Governed.follow (hg : Governs sink catalog settings P A) {p : Pass σ}
    (hp : Governed catalog settings P A p) {schedule : List HostType}
    (hs : ∀ h ∈ schedule, h ∈ catalog.eligible) :
    Governed catalog settings P A (p.follow sink catalog settings schedule) :=
  follow_preserves sink catalog settings (fun _ hq _ hh => hq.step hg hh) hp hs

variable {w : Workplace σ}

theorem Course.governed (hg : Governs sink catalog settings P A) (hw : P w.state)
    (course : Course sink catalog settings w) : Governed catalog settings P A
      ((opened catalog settings w).follow sink catalog settings course.schedule) :=
  have hopened : Governed catalog settings P A (opened catalog settings w) :=
    ⟨hw, fun _ _ => trivial⟩
  hopened.follow hg course.possible.interleaves.marked

/-- What every delivery preserves, every course preserves. -/
theorem Course.preserves (hg : Governs sink catalog settings P A) (hw : P w.state)
    (course : Course sink catalog settings w) : P course.after.state :=
  (course.governed hg hw).state

/-- The report has one outcome for every marked type, and each is one that its delivery can have. -/
theorem Course.outcomes (hg : Governs sink catalog settings P A) (hw : P w.state)
    (course : Course sink catalog settings w) :
    ∃ outcome : HostType → Except GenerationError String,
      (∀ h ∈ catalog.eligible, A h (outcome h)) ∧
      course.report = .ofOutcomes (catalog.eligible.map fun h => (h.name, outcome h)) := by
  obtain ⟨-, hleads⟩ := course.governed hg hw
  have hover := course.possible.interleaves.ended
  generalize hp : (opened catalog settings w).follow sink catalog settings course.schedule = p
    at hleads hover
  -- a type that is not marked has no outcome, but the report asks for none
  have hend : ∀ h, ∃ outcome, h ∈ catalog.eligible → p.stage h = .through outcome := by
    intro h
    by_cases hh : h ∈ catalog.eligible
    · obtain ⟨outcome, ho⟩ := hover h hh
      exact ⟨outcome, fun _ => ho⟩
    · exact ⟨.ok "", fun hm => absurd hm hh⟩
  choose outcome ho using hend
  refine ⟨outcome, fun h hh => ?_, ?_⟩
  · have hl := hleads h hh
    rw [ho h hh] at hl
    exact hl
  · have hreport : course.report = p.report catalog.eligible := by rw [← hp]; rfl
    rw [hreport]
    unfold Pass.report Pass.outcomes
    rw [← List.filterMap_eq_map]
    congr 1
    refine List.filterMap_congr fun h hh => ?_
    rw [ho h hh]
    rfl

/-- Where the outcomes are settled by the types, so is the report. -/
theorem Course.report_eq {outcome : HostType → Except GenerationError String}
    (hg : Governs sink catalog settings P fun h o => o = outcome h) (hw : P w.state)
    (course : Course sink catalog settings w) :
    course.report = .ofOutcomes (catalog.eligible.map fun h => (h.name, outcome h)) := by
  obtain ⟨o, ho, hreport⟩ := course.outcomes hg hw
  rw [hreport]
  congr 1
  exact List.map_congr_left fun h hh => by rw [ho h hh]

end

/-! ## What the destination refuses -/

section
variable {σ : Type} {sink : Sink σ} {catalog : Catalog} {settings : Settings} {w : Workplace σ}

/-- Every type comes out as if nothing were refused, or its delivery is refused. -/
theorem governs_refusal (sink : Sink σ) (catalog : Catalog) (settings : Settings) :
    Governs sink catalog settings (fun _ => True) fun h o =>
      o = unrefused catalog settings h ∨ ∃ e, IsRefusal e ∧ o = .error e :=
  fun h _ state _ => ⟨trivial, handOver_cases catalog settings sink h state⟩

/-- Where nothing is refused, the report depends on the deliveries alone. -/
theorem Course.report_of_unrefused (course : Course sink catalog settings w)
    (hr : ∀ failure ∈ course.report.failed, ¬ IsRefusal failure.2) :
    course.report = unrefusedReport catalog settings := by
  obtain ⟨outcome, ho, hreport⟩ :=
    course.outcomes (governs_refusal sink catalog settings) trivial
  rw [hreport] at hr ⊢
  unfold unrefusedReport
  congr 1
  refine List.map_congr_left fun h hh => ?_
  rcases ho h hh with he | ⟨e, he, hout⟩
  · rw [he]
  · have hmem : (h.name, Except.error e) ∈
        catalog.eligible.map fun k => (k.name, outcome k) := List.mem_map.mpr ⟨h, hh, by rw [hout]⟩
    exact absurd he (hr (h.name, e) (mem_failed_ofOutcomes.mpr hmem))

/-- The beans are reported in catalog order. -/
theorem Course.generated_eq (course : Course sink catalog settings w) :
    course.report.generated = (catalog.eligible.filter (passed course.report.failed)).filterMap
      (reportedName? catalog settings) := by
  obtain ⟨outcome, ho, hreport⟩ :=
    course.outcomes (governs_refusal sink catalog settings) trivial
  rw [hreport]
  refine generated_ofOutcomes (nodup_names catalog) fun h hh bean hb => ?_
  rcases ho h hh with he | ⟨e, -, he⟩
  · exact reportedName?_of_unrefused catalog settings (he ▸ hb)
  · rw [he] at hb
    cases hb

/-- A store without read-only classes refuses nothing. -/
theorem Course.report_store_nil {w : Workplace Store}
    (course : Course (Store.sink []) catalog settings w) :
    course.report = unrefusedReport catalog settings :=
  course.report_eq (P := fun _ => True)
    (fun h _ state _ => ⟨trivial, handOver_store_nil catalog settings h state⟩) trivial

end

/-! ## What is handed over -/

/-- A workplace where a list of deliveries begins to be kept. -/
def withList {σ : Type} (w : Workplace σ) : Workplace (σ × List Delivery) :=
  ⟨(w.state, []), w.events⟩

/-- The workplace without the list. -/
def withoutList {σ : Type} (w : Workplace (σ × List Delivery)) : Workplace σ :=
  ⟨w.state.1, w.events⟩

def Pass.withoutList {σ : Type} (p : Pass (σ × List Delivery)) : Pass σ :=
  ⟨p.stage, Interleaving.withoutList p.workplace⟩

section
variable {σ : Type} (sink : Sink σ) (catalog : Catalog) (settings : Settings)

theorem finish_recorded (s : Schema) (w : Workplace (σ × List Delivery)) :
    finish sink settings s (withoutList w) =
      ((finish (recorded sink) settings s w).1,
        withoutList (finish (recorded sink) settings s w).2) := by
  unfold finish Workplace.deliver recorded withoutList
  cases prepare settings s with
  | error e => rfl
  | ok d =>
    simp only
    cases hd : sink.deliver d w.state.1 with
    | mk answer state => cases answer <;> rfl

/-- Keeping the list changes nothing else. -/
theorem advance_recorded (h : HostType) (stage : Stage) (w : Workplace (σ × List Delivery)) :
    advance sink catalog settings h stage (withoutList w) =
      ((advance (recorded sink) catalog settings h stage w).1,
        withoutList (advance (recorded sink) catalog settings h stage w).2) := by
  cases stage with
  | announced =>
    simp only [advance]
    cases extract catalog settings h <;> rfl
  | extracted s =>
    simp only [advance, finish_recorded]
    generalize finish (recorded sink) settings s w = r
    obtain ⟨_ | _, _⟩ := r <;> rfl
  | _ => rfl

theorem follow_recorded (p : Pass (σ × List Delivery)) (schedule : List HostType) :
    p.withoutList.follow sink catalog settings schedule =
      (p.follow (recorded sink) catalog settings schedule).withoutList := by
  induction schedule generalizing p with
  | nil => rfl
  | cons h rest ih =>
    have hstep : p.withoutList.step sink catalog settings h =
        (p.step (recorded sink) catalog settings h).withoutList := by
      simp only [Pass.step, Pass.withoutList, advance_recorded]
      rfl
    have hcons : p.withoutList.follow sink catalog settings (h :: rest) =
        (p.withoutList.step sink catalog settings h).follow sink catalog settings rest := rfl
    rw [hcons, hstep, ih]
    rfl

/-- What a type has handed over up to a stage. -/
def handedBy (h : HostType) : Stage → List Delivery
  | .waiting | .announced | .extracted _ => []
  | .failing _ | .through _ => (deliveryOf catalog settings h).toOption.toList

variable {catalog settings}

/-- A step hands over what its type has to hand over next. -/
theorem advance_handedBy {h : HostType} {stage : Stage}
    (hl : Leads catalog settings (fun _ _ => True) h stage) (w : Workplace (σ × List Delivery)) :
    ∃ new, (advance (recorded sink) catalog settings h stage w).2.state.2 = w.state.2 ++ new ∧
      handedBy catalog settings h (advance (recorded sink) catalog settings h stage w).1 =
        handedBy catalog settings h stage ++ new := by
  cases stage with
  | announced =>
    refine ⟨[], ?_⟩
    simp only [advance, List.append_nil]
    cases hs : extract catalog settings h with
    | error e => simp [handedBy, deliveryOf_of_extract_error hs, Except.toOption]
    | ok s => exact ⟨rfl, rfl⟩
  | extracted s =>
    refine ⟨(deliveryOf catalog settings h).toOption.toList, ?_⟩
    have hfinish := congrArg Prod.snd (finish_handOver (recorded sink) hl w)
    rw [handOver_recorded] at hfinish
    simp only [advance]
    generalize finish (recorded sink) settings s w = r at hfinish
    obtain ⟨_ | _, v⟩ := r <;> exact ⟨congrArg Prod.snd hfinish, rfl⟩
  | waiting => exact ⟨[], (List.append_nil _).symm, rfl⟩
  | failing e => exact ⟨[], (List.append_nil _).symm, (List.append_nil _).symm⟩
  | through outcome => exact ⟨[], (List.append_nil _).symm, (List.append_nil _).symm⟩

/-- Where one of many lists grows, what they make together grows by the same. -/
theorem flatMap_perm_of_grow {α β : Type} [DecidableEq α] {l : List α} (hn : l.Nodup) {a : α}
    (ha : a ∈ l) {f g : α → List β} {new : List β} (hg : g a = f a ++ new)
    (ho : ∀ b, b ≠ a → g b = f b) : (l.flatMap g).Perm (l.flatMap f ++ new) := by
  have hl : l.Perm (a :: l.erase a) := List.perm_cons_erase ha
  have hrest : (l.erase a).flatMap g = (l.erase a).flatMap f :=
    List.flatMap_congr fun b hb => ho b ((hn.mem_erase_iff).mp hb).1
  have hgrown : ((a :: l.erase a).flatMap g) = f a ++ (new ++ (l.erase a).flatMap f) := by
    rw [List.flatMap_cons, hg, hrest, List.append_assoc]
  have hbefore : (a :: l.erase a).flatMap f ++ new = f a ++ ((l.erase a).flatMap f ++ new) := by
    rw [List.flatMap_cons, List.append_assoc]
  have hmoved : ((a :: l.erase a).flatMap g).Perm ((a :: l.erase a).flatMap f ++ new) := by
    rw [hgrown, hbefore]
    exact List.perm_append_comm.append_left _
  exact (hl.flatMap_right g).trans (hmoved.trans ((hl.symm.flatMap_right f).append_right new))

/-- At every moment, the list holds what the types have handed over up to their stages. -/
structure HandsOver (catalog : Catalog) (settings : Settings) (p : Pass (σ × List Delivery)) :
    Prop where
  leads : ∀ h ∈ catalog.eligible, Leads catalog settings (fun _ _ => True) h (p.stage h)
  handed : p.workplace.state.2.Perm
    (catalog.eligible.flatMap fun h => handedBy catalog settings h (p.stage h))

theorem HandsOver.step {p : Pass (σ × List Delivery)} (hp : HandsOver catalog settings p)
    {h : HostType} (hh : h ∈ catalog.eligible) :
    HandsOver catalog settings (p.step (recorded sink) catalog settings h) := by
  have hfree : Governs (recorded sink) catalog settings (fun _ => True) fun _ _ => True :=
    fun _ _ _ _ => ⟨trivial, trivial⟩
  have hgoverned : Governed catalog settings (fun _ => True) (fun _ _ => True) p :=
    ⟨trivial, hp.leads⟩
  obtain ⟨new, hlist, hby⟩ := advance_handedBy sink (hp.leads h hh) p.workplace
  refine ⟨(hgoverned.step hfree hh).leads, ?_⟩
  have hgrow := flatMap_perm_of_grow (nodup_eligible catalog) hh
    (f := fun k => handedBy catalog settings k (p.stage k))
    (g := fun k => handedBy catalog settings k
      ((p.step (recorded sink) catalog settings h).stage k))
    (by simpa [Pass.step, Pass.put] using hby)
    fun k hk => by simp [Pass.step, Pass.put, hk]
  refine List.Perm.trans ?_ hgrow.symm
  have hstate : (p.step (recorded sink) catalog settings h).workplace.state.2 =
      p.workplace.state.2 ++ new := hlist
  rw [hstate]
  exact hp.handed.append_right new

theorem HandsOver.follow {p : Pass (σ × List Delivery)} (hp : HandsOver catalog settings p)
    {schedule : List HostType} (hs : ∀ h ∈ schedule, h ∈ catalog.eligible) :
    HandsOver catalog settings (p.follow (recorded sink) catalog settings schedule) :=
  follow_preserves (recorded sink) catalog settings (fun _ hq _ hh => hq.step sink hh) hp hs

theorem deliveriesOf_eq_flatMap (hosts : List HostType) :
    deliveriesOf catalog settings hosts =
      hosts.flatMap fun h => (deliveryOf catalog settings h).toOption.toList := by
  induction hosts with
  | nil => rfl
  | cons h rest ih => rw [deliveriesOf_cons, ih, List.flatMap_cons]

end

namespace Course
variable {σ : Type} {sink : Sink σ} {catalog : Catalog} {settings : Settings} {w : Workplace σ}

/-- The same course, with a list of all that is handed over. -/
def recorded (course : Course sink catalog settings w) :
    Course (Generation.recorded sink) catalog settings (withList w) where
  schedule := course.schedule
  possible :=
    { interleaves :=
        { marked := course.possible.interleaves.marked
          ended := by
            have hended := course.possible.interleaves.ended
            have hopened : opened catalog settings w =
              (opened catalog settings (withList w)).withoutList := rfl
            rw [hopened, follow_recorded] at hended
            exact hended }
      ordered := course.possible.ordered }

/-- All that is handed over, in the order in which it is. -/
def handedOver (course : Course sink catalog settings w) : List Delivery :=
  course.recorded.after.state.2

/-- Keeping the list changes nothing else. -/
theorem after_recorded (course : Course sink catalog settings w) :
    withoutList course.recorded.after = course.after :=
  congrArg Pass.workplace (follow_recorded sink catalog settings
    (opened catalog settings (withList w)) course.schedule).symm

/-- Every course hands over the same deliveries. -/
theorem handedOver_perm (course : Course sink catalog settings w) :
    course.handedOver.Perm (deliveriesOf catalog settings catalog.eligible) := by
  have hopened : HandsOver catalog settings (opened catalog settings (withList w)) := by
    refine ⟨fun _ _ => trivial, ?_⟩
    have hnone : (catalog.eligible.flatMap fun h => handedBy catalog settings h .waiting) = [] :=
      List.flatMap_eq_nil_iff.mpr fun _ _ => rfl
    exact List.Perm.of_eq hnone.symm
  have hend := hopened.follow sink course.possible.interleaves.marked
  refine hend.handed.trans (List.Perm.of_eq ?_)
  rw [deliveriesOf_eq_flatMap]
  refine List.flatMap_congr fun h hh => ?_
  obtain ⟨outcome, ho⟩ := course.recorded.possible.interleaves.ended h hh
  have hstage : ((opened catalog settings (withList w)).follow (Generation.recorded sink) catalog
      settings course.schedule).stage h = .through outcome := ho
  rw [hstage]
  rfl

/-- One type after another, they are handed over in catalog order. -/
theorem handedOver_sequential (sink : Sink σ) (catalog : Catalog) (settings : Settings)
    (w : Workplace σ) : (sequential sink catalog settings w).handedOver =
      deliveriesOf catalog settings catalog.eligible := by
  have hrun : (sequential sink catalog settings w).recorded.pass = _ :=
    pass_sequential (Generation.recorded sink) catalog settings (withList w)
  unfold handedOver after
  rw [hrun]
  exact generateEach_recorded sink catalog settings catalog.eligible _

/-- The destination has been handed these deliveries and nothing else. -/
theorem after_state (course : Course sink catalog settings w) :
    course.after.state = stateAfter sink w.state course.handedOver := by
  have hg : Governs (Generation.recorded sink) catalog settings
      (fun state => state.1 = stateAfter sink w.state state.2) fun _ _ => True := by
    intro h _ state hs
    refine ⟨?_, trivial⟩
    rw [handOver_recorded]
    cases deliveryOf catalog settings h with
    | error e => simpa [handOver, Except.toOption] using hs
    | ok d =>
      have hlast : stateAfter sink w.state (state.2 ++ [d]) = (sink.deliver d state.1).2 := by
        rw [stateAfter_append, ← hs]
        rfl
      exact hlast.symm
  have hstate := course.recorded.preserves hg rfl
  rw [← after_recorded course]
  exact hstate

end Course

end RecordBean.Interleaving
