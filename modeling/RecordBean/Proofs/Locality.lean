import RecordBean.Proofs.Courses
import RecordBean.Proofs.Mirroring

/-! # Locality of generation

Of all other entries of a catalog, work on one type can see two things: which names there are, and
which of them are marked records. Catalogs that agree on this (`Agree`) are alike for every type
that they share, however their other entries differ. The only way from an entry into the bean of
another type is the nesting of a field, and nesting is settled by a look-up of a name.

A pass hands over the deliveries of its types independently of each other, and which ones it hands
over is not a matter of order. What becomes of them is up to the destination. One that is steady
answers a delivery regardless of what it was given before, and then the report is permuted with the
list of types, and no type has a part in what becomes of another one. Stores are steady, and so are
files below a fresh directory where packages and classes are named by identifiers. Other files are
not: a file can stand where the directories of another bean are to be made. -/

namespace RecordBean.Locality
open RecordBean.Extraction RecordBean.Generation RecordBean.Interleaving RecordBean.Name

/-! ## What entries show of themselves -/

/-- What others can see of a name: whether it is an entry, and if so, whether it is a record with a
bean. -/
def standing (catalog : Catalog) (name : String) : Option Bool :=
  (catalog.get? name).map (·.hasBean)

/-- The same names are entries, and the same entries are marked records. -/
def Agree (c d : Catalog) : Prop := ∀ name, standing c name = standing d name

theorem standing_eq_none_iff {catalog : Catalog} {name : String} :
    standing catalog name = none ↔ name ∉ catalog.types.map (·.name) := by
  unfold standing Catalog.get?
  rw [Option.map_eq_none_iff, List.find?_eq_none, List.mem_map, not_exists]
  refine forall_congr' fun h => ?_
  rw [beq_iff_eq, not_and]

/-- Only names of entries need to be compared. -/
theorem agree_iff {c d : Catalog} :
    Agree c d ↔ ∀ name ∈ (c.types ++ d.types).map (·.name), standing c name = standing d name := by
  constructor
  · intro hagree name _
    exact hagree name
  · intro hnames name
    by_cases hm : name ∈ (c.types ++ d.types).map (·.name)
    · exact hnames name hm
    · rw [List.map_append, List.mem_append, not_or] at hm
      rw [standing_eq_none_iff.mpr hm.1, standing_eq_none_iff.mpr hm.2]

instance (c d : Catalog) : Decidable (Agree c d) := decidable_of_iff _ agree_iff.symm

/-- Resolution is a matter of names; what it finds shows its standing. -/
theorem standing_resolve? (catalog : Catalog) (type : String) (package : Option String) :
    (catalog.resolve? type package).map (·.hasBean) =
      (standing catalog type).or
        (package.bind fun p => standing catalog (qualify (some p) type)) := by
  unfold Catalog.resolve? standing
  cases catalog.get? type with
  | some h => rfl
  | none =>
    cases package with
    | none => rfl
    | some p => rfl

theorem fieldOf_isNested (catalog : Catalog) (package : Option String) (c : Component) :
    (fieldOf catalog package c).isNested =
      ((catalog.resolve? c.type package).map (·.hasBean)).getD false := by
  unfold fieldOf
  cases catalog.resolve? c.type package <;> rfl

section
variable {c d : Catalog} {settings : Settings} {h : HostType}

theorem Agree.fieldOf (hagree : Agree c d) (package : Option String) (component : Component) :
    fieldOf c package component = fieldOf d package component := by
  have hnested : (Extraction.fieldOf c package component).isNested =
      (Extraction.fieldOf d package component).isNested := by
    rw [fieldOf_isNested, fieldOf_isNested, standing_resolve?, standing_resolve?]
    simp only [hagree _]
  exact (Field.mk.injEq ..).mpr ⟨rfl, rfl, hnested⟩

theorem Agree.extract (hagree : Agree c d) (settings : Settings) (h : HostType) :
    extract c settings h = extract d settings h := by
  have hfields : ∀ package, Extraction.fieldOf c package = Extraction.fieldOf d package :=
    fun package => funext (hagree.fieldOf package)
  unfold RecordBean.extract
  simp only [hfields]

theorem Agree.deliveryOf (hagree : Agree c d) (settings : Settings) :
    deliveryOf c settings = deliveryOf d settings := by
  funext h
  unfold Generation.deliveryOf
  rw [hagree.extract]

/-- Work on one type: the result, the destination and the events are the same. -/
theorem Agree.generateOne {σ : Type} (hagree : Agree c d) (sink : Sink σ) (settings : Settings)
    (h : HostType) (w : Workplace σ) :
    generateOne sink c settings h w = generateOne sink d settings h w := by
  unfold Generation.generateOne attempt
  rw [hagree.extract]

/-! ## Catalogs in another order -/

theorem get?_eq_of_perm (hp : c.types.Perm d.types) (name : String) : c.get? name = d.get? name := by
  apply Option.ext
  intro h
  rw [get?_eq_some_iff, get?_eq_some_iff, hp.mem_iff]

theorem agree_of_perm (hp : c.types.Perm d.types) : Agree c d := by
  intro name
  unfold standing
  rw [get?_eq_of_perm hp]

theorem eligible_perm (hp : c.types.Perm d.types) : c.eligible.Perm d.eligible := hp.filter _

end

/-! ## Passes into destinations that do not change their mind -/

/-- Whether a destination, as long as it is handed certain deliveries only, answers each of them in
the same way whatever it was handed before. `P` holds of all states that it can come to. -/
structure IsSteady {σ : Type} (sink : Sink σ) (P : σ → Prop) (handed : Delivery → Prop) : Prop where
  keeps : ∀ x, handed x → ∀ s, P s → P (sink.deliver x s).2
  same : ∀ x, handed x → ∀ s t, P s → P t → (sink.deliver x s).1 = (sink.deliver x t).1

/-- A store refuses a class or takes it, and what it holds has no part in this. -/
theorem isSteady_store (readOnly : List String) (handed : Delivery → Prop) :
    IsSteady (Store.sink readOnly) (fun _ => True) handed where
  keeps _ _ _ _ := trivial
  same x _ s t _ _ := by
    unfold Store.sink
    by_cases hx : x.className ∈ readOnly
    · simp only [if_pos hx]
    · simp only [if_neg hx]

/-- Whether a delivery is named by identifiers and its path keeps to the limits of a tree. -/
structure IsOrdinary (t : FileTree) (root : String) (x : Delivery) : Prop where
  named : Mirroring.IsNamed x.package x.className
  limits : t.WithinLimits (Path.ofClass root x.package x.className)

/-- Files below a fresh directory take all ordinary deliveries. -/
theorem isSteady_files {t : FileTree} {root : String} (hf : Mirroring.IsFresh t root) :
    ∃ P : FileTree → Prop, P t ∧ IsSteady (FileTree.sink root) P (IsOrdinary t root) := by
  refine ⟨fun u => ∃ s done, Mirroring.Simulates root t u s done,
    ⟨_, _, hf.simulates⟩, ?_, ?_⟩
  · rintro x hx u ⟨s, done, hu⟩
    obtain ⟨u', hdeliver, hsim⟩ := hu.deliver hx.named hx.limits
    rw [hdeliver]
    exact ⟨_, _, hsim⟩
  · rintro x hx u v ⟨s, done, hu⟩ ⟨s', done', hv⟩
    obtain ⟨u', hdeliver, -⟩ := hu.deliver hx.named hx.limits
    obtain ⟨v', hdeliver', -⟩ := hv.deliver hx.named hx.limits
    rw [hdeliver, hdeliver']

theorem mem_deliveriesOf {catalog : Catalog} {settings : Settings} {hosts : List HostType}
    {x : Delivery} : x ∈ deliveriesOf catalog settings hosts ↔
      ∃ h ∈ hosts, deliveryOf catalog settings h = .ok x := by
  unfold deliveriesOf
  rw [List.mem_filterMap]
  refine exists_congr fun h => and_congr_right fun _ => ?_
  cases deliveryOf catalog settings h <;> simp [Except.toOption]

section
variable {σ : Type} {sink : Sink σ} {P : σ → Prop} {handed : Delivery → Prop} {catalog : Catalog}
  {settings : Settings}

/-- Whether all that a pass hands over is of a kind. -/
def HandsOnly (handed : Delivery → Prop) (catalog : Catalog) (settings : Settings) : Prop :=
  ∀ x ∈ deliveriesOf catalog settings catalog.eligible, handed x

/-- The outcome of every type is the answer in any one state. -/
theorem IsSteady.governs (hs : IsSteady sink P handed) (hx : HandsOnly handed catalog settings)
    {state : σ} (hp : P state) : Governs sink catalog settings P fun h o =>
      o = (handOver sink (deliveryOf catalog settings h) state).1 := by
  intro h hh t ht
  show P (handOver sink (deliveryOf catalog settings h) t).2 ∧
    (handOver sink (deliveryOf catalog settings h) t).1 =
      (handOver sink (deliveryOf catalog settings h) state).1
  cases hd : deliveryOf catalog settings h with
  | error e => exact ⟨ht, rfl⟩
  | ok x =>
    have hhanded : handed x := hx x (mem_deliveriesOf.mpr ⟨h, hh, hd⟩)
    exact ⟨hs.keeps x hhanded t ht, congrArg (answered x) (hs.same x hhanded t state ht hp)⟩

/-- No type has a part in what becomes of another one. -/
theorem IsSteady.report_eq (hs : IsSteady sink P handed) (hx : HandsOnly handed catalog settings)
    {state : σ} (hp : P state) {w : Workplace σ} (hw : P w.state)
    (course : Course sink catalog settings w) :
    course.report = .ofOutcomes (catalog.eligible.map fun h =>
      (h.name, (handOver sink (deliveryOf catalog settings h) state).1)) :=
  course.report_eq (hs.governs hx hp) hw

theorem ofOutcomes_perm {a b : List (String × Except GenerationError String)} (hp : a.Perm b) :
    (Report.ofOutcomes a).generated.Perm (Report.ofOutcomes b).generated ∧
      (Report.ofOutcomes a).failed.Perm (Report.ofOutcomes b).failed :=
  ⟨hp.filterMap _, hp.filterMap _⟩

/-! ## What is stored -/

/-- The outcome of a type in a store is its delivery, if the store takes it. -/
theorem outcomeOf_eq_ok_iff_deliveryOf {readOnly : List String} {h : HostType} {b : Bean} :
    outcomeOf readOnly catalog settings h = .ok b ↔ ∃ x, deliveryOf catalog settings h = .ok x ∧
      x.className ∉ readOnly ∧ b = ⟨x.qualifiedName, x.source⟩ := by
  rw [outcomeOf_eq_ok_iff]
  constructor
  · rintro ⟨s, hs, hr, hn, hb⟩
    refine ⟨⟨s.packageName, s.beanName, b.source⟩,
      deliveryOf_eq_ok_iff.mpr ⟨s, hs, hr, rfl, rfl⟩, hn, ?_⟩
    obtain ⟨name, source⟩ := b
    rw [show name = s.beanQualifiedName from hb]
    rfl
  · rintro ⟨x, hx, hn, rfl⟩
    obtain ⟨s, hs, hr, -, hclass⟩ := deliveryOf_eq_ok_iff.mp hx
    exact ⟨s, hs, hr, hclass ▸ hn, qualifiedName_of_extract hs hx⟩

/-- A delivery that a store takes replaces the source under its own name, and a refused one does not
replace any. -/
theorem get?_deliver (readOnly : List String) (y : Delivery) (s : Store) (key : String) :
    ((Store.sink readOnly).deliver y s).2.get? key =
      if y.className ∉ readOnly ∧ y.qualifiedName = key then some y.source else s.get? key := by
  unfold Store.sink
  by_cases hn : y.className ∈ readOnly
  · simp [hn]
  · simp [hn, Mirroring.get?_add]

/-- A store has the source of a delivery that it took if it takes no other source of this name. -/
theorem get?_stateAfter {readOnly : List String} {ds : List Delivery} {x : Delivery} {s : Store}
    (hx : x ∈ ds ∨ s.get? x.qualifiedName = some x.source) (hn : x.className ∉ readOnly)
    (hapart : ∀ y ∈ ds, y.className ∉ readOnly → y.qualifiedName = x.qualifiedName →
      y.source = x.source) :
    (stateAfter (Store.sink readOnly) s ds).get? x.qualifiedName = some x.source := by
  induction ds generalizing s with
  | nil =>
    rcases hx with hx | hx
    · cases hx
    · exact hx
  | cons y rest ih =>
    obtain ⟨hy, hrest⟩ := List.forall_mem_cons.mp hapart
    refine ih ?_ hrest
    rw [get?_deliver]
    by_cases htaken : y.className ∉ readOnly ∧ y.qualifiedName = x.qualifiedName
    · rw [if_pos htaken, hy htaken.1 htaken.2]
      exact Or.inr rfl
    · rw [if_neg htaken]
      -- the delivery in question is taken, so it is still to come
      rcases hx with hx | hx
      · rcases List.mem_cons.mp hx with rfl | hm
        · exact absurd ⟨hn, rfl⟩ htaken
        · exact Or.inl hm
      · exact Or.inr hx

/-- A bean is stored as it came out of its type unless another type that came through has a bean of
the same name. -/
theorem get?_of_apart {readOnly : List String} {h : HostType} {b : Bean}
    (hh : h ∈ catalog.eligible) (hb : outcomeOf readOnly catalog settings h = .ok b)
    (hapart : ∀ k ∈ catalog.eligible, ∀ x, outcomeOf readOnly catalog settings k = .ok x →
      x.name = b.name → k = h) {w : Workplace Store}
    (course : Course (Store.sink readOnly) catalog settings w) :
    course.after.state.get? b.name = some b.source := by
  obtain ⟨x, hx, hn, rfl⟩ := outcomeOf_eq_ok_iff_deliveryOf.mp hb
  have hperm := course.handedOver_perm
  rw [course.after_state]
  refine get?_stateAfter (Or.inl (hperm.mem_iff.mpr (mem_deliveriesOf.mpr ⟨h, hh, hx⟩))) hn ?_
  intro y hy hyn hname
  obtain ⟨k, hk, hky⟩ := mem_deliveriesOf.mp (hperm.mem_iff.mp hy)
  have hkh := hapart k hk ⟨y.qualifiedName, y.source⟩
    (outcomeOf_eq_ok_iff_deliveryOf.mpr ⟨y, hky, hyn, rfl⟩) hname
  rw [hkh, hx] at hky
  rw [Except.ok.inj hky]

end

theorem Agree.outcomeOf {c d : Catalog} (hagree : Agree c d) (readOnly : List String)
    (settings : Settings) (h : HostType) :
    outcomeOf readOnly c settings h = outcomeOf readOnly d settings h := by
  unfold Generation.outcomeOf
  rw [hagree.extract]

/-! ## Two catalogs -/

/-- How little the other entries of two catalogs matter to the types that both have. -/
structure Alike (c d : Catalog) (settings : Settings) : Prop where
  /-- Work on one type has the same result, hands over the same, and tells the same, for every
  destination and whatever happened before. -/
  one : ∀ h ∈ c.types, h ∈ d.types → ∀ (σ : Type) (sink : Sink σ) (w : Workplace σ),
    generateOne sink c settings h w = generateOne sink d settings h w
  /-- The package, the class and the source that are handed over, or the reason why nothing is. -/
  delivery : ∀ h ∈ c.types, h ∈ d.types → deliveryOf c settings h = deliveryOf d settings h
  /-- All passes hand over the bean of a type that has one. -/
  handed_over : ∀ h ∈ c.eligible, h ∈ d.eligible → ∀ x, deliveryOf c settings h = .ok x →
    ∀ (σ : Type) (sink : Sink σ) (w v : Workplace σ) (p : Course sink c settings w)
      (q : Course sink d settings v), x ∈ p.handedOver ∧ x ∈ q.handedOver
  /-- With a steady destination, all passes list a type as a failure with the same error, or none
  does. -/
  failed : ∀ h ∈ c.eligible, h ∈ d.eligible →
    ∀ (σ : Type) (sink : Sink σ) (P : σ → Prop) (handed : Delivery → Prop),
      IsSteady sink P handed → HandsOnly handed c settings → HandsOnly handed d settings →
      ∀ w v, P w.state → P v.state →
        ∀ (p : Course sink c settings w) (q : Course sink d settings v) (e : GenerationError),
          (h.name, e) ∈ p.report.failed ↔ (h.name, e) ∈ q.report.failed
  /-- What a type has stored depends on no entry that fails: only another type that comes through
  with a bean of the same name can replace it. -/
  stored : ∀ h ∈ c.eligible, h ∈ d.eligible → ∀ (readOnly : List String) (b : Bean),
    outcomeOf readOnly c settings h = .ok b →
    (∀ k ∈ c.eligible ++ d.eligible, ∀ x, outcomeOf readOnly c settings k = .ok x →
      x.name = b.name → k = h) →
    ∀ (w v : Workplace Store) (p : Course (Store.sink readOnly) c settings w)
      (q : Course (Store.sink readOnly) d settings v),
      p.after.state.get? b.name = some b.source ∧ q.after.state.get? b.name = some b.source

/-- How little the order of the types matters. -/
structure OrderIsFree (c d : Catalog) (settings : Settings) : Prop where
  /-- The same deliveries are handed over. -/
  handed_over : ∀ (σ : Type) (sink : Sink σ) (w v : Workplace σ) (p : Course sink c settings w)
    (q : Course sink d settings v), p.handedOver.Perm q.handedOver
  /-- With a steady destination, the report is permuted and does not change otherwise. -/
  report : ∀ (σ : Type) (sink : Sink σ) (P : σ → Prop) (handed : Delivery → Prop),
    IsSteady sink P handed → HandsOnly handed c settings → ∀ w v, P w.state → P v.state →
      ∀ (p : Course sink c settings w) (q : Course sink d settings v),
        p.report.generated.Perm q.report.generated ∧ p.report.failed.Perm q.report.failed

section
variable {c d : Catalog} {settings : Settings} {σ : Type} {sink : Sink σ} {P : σ → Prop}
  {handed : Delivery → Prop} {w v : Workplace σ}

/-- With a steady destination, one function tells what becomes of a type in either catalog. -/
theorem Agree.reports (hagree : Agree c d) (hs : IsSteady sink P handed)
    (hc : HandsOnly handed c settings) (hd : HandsOnly handed d settings) (hw : P w.state)
    (hv : P v.state) (p : Course sink c settings w) (q : Course sink d settings v) :
    ∃ outcome : HostType → Except GenerationError String,
      p.report = .ofOutcomes (c.eligible.map fun h => (h.name, outcome h)) ∧
      q.report = .ofOutcomes (d.eligible.map fun h => (h.name, outcome h)) := by
  refine ⟨_, hs.report_eq hc hw hw p, ?_⟩
  rw [hs.report_eq hd hw hv q, hagree.deliveryOf]

end

/-- Catalogs that agree on their names and on their marked records are alike for the types that they
share. -/
theorem alike_of_agree {c d : Catalog} (settings : Settings) (hagree : Agree c d) :
    Alike c d settings where
  one h _ _ σ sink w := hagree.generateOne sink settings h w
  delivery h _ _ := congrFun (hagree.deliveryOf settings) h
  handed_over h hc hd x hx σ sink w v p q := by
    have hx' : deliveryOf d settings h = .ok x := by
      rw [← hagree.deliveryOf]
      exact hx
    exact ⟨p.handedOver_perm.mem_iff.mpr (mem_deliveriesOf.mpr ⟨h, hc, hx⟩),
      q.handedOver_perm.mem_iff.mpr (mem_deliveriesOf.mpr ⟨h, hd, hx'⟩)⟩
  failed h hc hd σ sink P handed hs hpc hpd w v hw hv p q e := by
    obtain ⟨outcome, hp, hq⟩ := hagree.reports hs hpc hpd hw hv p q
    rw [hp, hq, mem_failed_of_nodup (nodup_names c) hc, mem_failed_of_nodup (nodup_names d) hd]
  stored h hc hd readOnly b hb hapart w v p q := by
    have hsame := hagree.outcomeOf readOnly settings
    constructor
    · exact get?_of_apart hc hb (fun k hk => hapart k (List.mem_append_left _ hk)) p
    · refine get?_of_apart hd (by rw [← hsame]; exact hb) ?_ q
      intro k hk x hx
      rw [← hsame] at hx
      exact hapart k (List.mem_append_right _ hk) x hx

theorem report_perm {c d : Catalog} {settings : Settings} (hp : c.types.Perm d.types) {σ : Type}
    {sink : Sink σ} {P : σ → Prop} {handed : Delivery → Prop} (hs : IsSteady sink P handed)
    (hx : HandsOnly handed c settings) {w v : Workplace σ} (hw : P w.state) (hv : P v.state)
    (p : Course sink c settings w) (q : Course sink d settings v) :
    p.report.generated.Perm q.report.generated ∧ p.report.failed.Perm q.report.failed := by
  have hagree := agree_of_perm hp
  have hx' : HandsOnly handed d settings := by
    intro x hm
    obtain ⟨h, hh, hd⟩ := mem_deliveriesOf.mp hm
    rw [← hagree.deliveryOf] at hd
    exact hx x (mem_deliveriesOf.mpr ⟨h, (eligible_perm hp).mem_iff.mpr hh, hd⟩)
  obtain ⟨outcome, hreport, hreport'⟩ := hagree.reports hs hx hx' hw hv p q
  rw [hreport, hreport']
  exact ofOutcomes_perm ((eligible_perm hp).map _)

/-- A list of types in another order hands over the same, and is reported the same by destinations
that do not mind the order. -/
theorem orderIsFree_of_perm {c d : Catalog} (settings : Settings) (hp : c.types.Perm d.types) :
    OrderIsFree c d settings where
  handed_over σ sink w v p q := by
    refine p.handedOver_perm.trans (List.Perm.trans ?_ q.handedOver_perm.symm)
    unfold deliveriesOf
    rw [(agree_of_perm hp).deliveryOf]
    exact (eligible_perm hp).filterMap _
  report σ sink P handed hs hx w v hw hv p q := report_perm hp hs hx hw hv p q

/-- The beans of a catalog are local: neither the other entries nor their order have a part in what
is handed over for a type, nor, with a steady destination, in what becomes of it. Stores are steady,
and so are files below a fresh directory as long as all deliveries are ordinary. -/
theorem beans_are_local (c d : Catalog) (settings : Settings) :
    (Agree c d → Alike c d settings) ∧ (c.types.Perm d.types → OrderIsFree c d settings) ∧
    (∀ readOnly handed, IsSteady (Store.sink readOnly) (fun _ => True) handed) ∧
    ∀ t root, Mirroring.IsFresh t root →
      ∃ P, P t ∧ IsSteady (FileTree.sink root) P (IsOrdinary t root) :=
  ⟨alike_of_agree settings, orderIsFree_of_perm settings, isSteady_store,
    fun _ _ hf => isSteady_files hf⟩

/-- A record with a component of another record. -/
def tidy : Catalog where
  types := [
    ⟨"a.Outer", .record, ["public"], none, some .plain, [⟨"inner", "Inner"⟩]⟩,
    ⟨"a.Inner", .record, [], none, some .plain, [⟨"size", "int"⟩]⟩]
  distinct := by decide

/-- The same two names in another order, the inner record without a type for its component. -/
def untidy : Catalog where
  types := [
    ⟨"a.Inner", .record, ["private"], some "a", some ⟨["Deprecated"], []⟩, [⟨"size", " "⟩]⟩,
    ⟨"a.Outer", .record, ["public"], none, some .plain, [⟨"inner", "Inner"⟩]⟩]
  distinct := by decide

/-- The two records of `tidy`, the inner one first. -/
def turned : Catalog where
  types := tidy.types.reverse
  distinct := by decide

/-- The inner record fails in one of the catalogs and the outer one comes out alike in both. -/
theorem tidy_alike_untidy :
    Agree tidy untidy ∧ Alike tidy untidy .default ∧
      (∃ h ∈ tidy.eligible, h ∈ untidy.eligible ∧ h.name = "a.Outer" ∧
        ∃ k ∈ untidy.eligible, extract untidy .default k = .error (.emptyComponent "a.Inner")) ∧
      tidy.types.Perm turned.types ∧ OrderIsFree tidy turned .default ∧
      ∃ P, P Mirroring.clearing ∧
        IsSteady (FileTree.sink "out") P (IsOrdinary Mirroring.clearing "out") := by
  have hagree : Agree tidy untidy := by decide
  have hturned : tidy.types.Perm turned.types := (List.reverse_perm tidy.types).symm
  refine ⟨hagree, (beans_are_local tidy untidy .default).1 hagree, ?_, hturned,
    (beans_are_local tidy turned .default).2.1 hturned,
    (beans_are_local tidy turned .default).2.2.2 _ _ Mirroring.isFresh_clearing⟩
  exact ⟨_, List.mem_cons_self, by decide, rfl, _, List.mem_cons_self, rfl⟩

/-! ## Files that get into the way of each other -/

/-- A record whose package leads to a directory, and one without a package. -/
def author : HostType := ⟨"A", .record, [], some "/tmp/beanerator-order", some .plain, []⟩

def bearer : HostType := ⟨"B", .record, [], none, some .plain, []⟩

def authorFirst : Catalog where
  types := [author, bearer]
  distinct := by decide

def bearerFirst : Catalog where
  types := [bearer, author]
  distinct := by decide

/-- The record without a package has a component without a type. -/
def brokenFirst : Catalog where
  types := [⟨"B", .record, [], none, some .plain, [⟨"size", " "⟩]⟩, author]
  distinct := by decide

/-- The root directory is to have the path of the first bean. -/
def contested : String := "/tmp/beanerator-order/ABean.java"

/-- Whichever bean comes first is written, and the other one fails: a file stands where the root
directory is to be made, or the root directory where the file is to be written. So the order of the
types settles which of them fails, and so does whether the other one is malformed. -/
theorem files_are_not_steady :
    authorFirst.types.Perm bearerFirst.types ∧
    (run (FileTree.sink contested) authorFirst .default (.start (.empty []))).1 =
      ⟨["/tmp/beanerator-order.ABean"],
        [("B", .emit (.io "/tmp/beanerator-order/ABean.java/BBean.java" .alreadyExists))]⟩ ∧
    (run (FileTree.sink contested) bearerFirst .default (.start (.empty []))).1 =
      ⟨["BBean"], [("A", .emit (.io "/tmp/beanerator-order/ABean.java" .isADirectory))]⟩ ∧
    ¬ (run (FileTree.sink contested) authorFirst .default (.start (.empty []))).1.generated.Perm
      (run (FileTree.sink contested) bearerFirst .default (.start (.empty []))).1.generated ∧
    Agree bearerFirst brokenFirst ∧
    (run (FileTree.sink contested) brokenFirst .default (.start (.empty []))).1 =
      ⟨["/tmp/beanerator-order.ABean"], [("B", .extract (.emptyComponent "B"))]⟩ := by
  have hfirst : (run (FileTree.sink contested) authorFirst .default (.start (.empty []))).1 =
      ⟨["/tmp/beanerator-order.ABean"],
        [("B", .emit (.io "/tmp/beanerator-order/ABean.java/BBean.java" .alreadyExists))]⟩ := by
    decide +kernel
  have hsecond : (run (FileTree.sink contested) bearerFirst .default (.start (.empty []))).1 =
      ⟨["BBean"], [("A", .emit (.io "/tmp/beanerator-order/ABean.java" .isADirectory))]⟩ := by
    decide +kernel
  refine ⟨List.Perm.swap bearer author [], hfirst, hsecond, ?_, by decide, by decide +kernel⟩
  rw [hfirst, hsecond]
  decide

end RecordBean.Locality
