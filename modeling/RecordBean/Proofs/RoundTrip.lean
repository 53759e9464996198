import Mathlib.Data.List.Nodup
import RecordBean.Proofs.Extraction
import RecordBean.Proofs.Meaning
import RecordBean.Proofs.Rendering

/-! # Round trip of a record

A record turned into its bean and back is the record again, as deep as it goes. The factory, the
constructor, the getters and the conversion back are written independently of each other; they
agree because each of them names every field once, in declaration order, and because no two fields
share a getter. Below a nested field the same holds one level down, so the proof goes by the number
of levels, for all marked records of the catalog together. -/

namespace RecordBean.RoundTrip
open RecordBean.Text RecordBean.Reading RecordBean.Meaning RecordBean.Extraction

variable {α : Type}

/-! ## Members that are read back -/

/-- A schema whose members can be read back, whatever its other names are. -/
structure IsPlain (s : Schema) : Prop where
  simpleName : Name.isIdentifier s.simpleName = true
  named : SourceFile.AreNamed s.fields
  oneLine : ∀ f ∈ s.fields, '\n' ∉ f.declaredType.toList
  bracketed : ∀ f ∈ s.fields, wellBracketed 0 f.declaredType.toList = true
  nested : ∀ f ∈ s.fields, f.isNested = true → IsTypeName f.declaredType

section Members
variable {s : Schema}

theorem IsPlain.isWord (h : IsPlain s) {f : Field} (hf : f ∈ s.fields) : IsWord f.name.toList :=
  Name.isWord_of_isIdentifier (h.named.identifiers f hf)

theorem IsPlain.isLegible (h : IsPlain s) {f : Field} (hf : f ∈ s.fields) : IsLegible f :=
  ⟨h.isWord hf, h.nested f hf⟩

theorem IsPlain.isTyped (h : IsPlain s) {f : Field} (hf : f ∈ s.fields) : IsTyped f :=
  ⟨h.isWord hf, h.oneLine f hf, h.bracketed f hf⟩

theorem IsPlain.oneLine_beanName (h : IsPlain s) : '\n' ∉ s.beanName.toList := by
  have hs : '\n' ∉ s.simpleName.toList :=
    (Name.isWord_of_isIdentifier h.simpleName).notMem (by decide)
  rw [Schema.beanName, Name.companion, String.toList_append, List.mem_append, not_or]
  exact ⟨hs, by decide⟩

theorem IsPlain.readFromRecord (h : IsPlain s) :
    readFromRecord (TypeNames.of s) (Members.of s).fromRecord =
      some (s.fields.map Expr.ofRecord) :=
  readFromRecord_fromRecord (TypeNames.of s) fun _ hf => h.isLegible hf

theorem IsPlain.readToRecord (h : IsPlain s) :
    readToRecord (TypeNames.of s) (Members.of s).toRecord = some (s.fields.map Expr.ofBean) :=
  readToRecord_toRecord (TypeNames.of s) fun _ hf => h.isLegible hf

theorem IsPlain.readConstructors (h : IsPlain s) :
    readConstructors s.beanName (lines (Members.of s).constructors) =
      some (constructorsOf s.fields) :=
  readConstructors_constructors (TypeNames.of s) h.oneLine_beanName
    fun _ hf => h.isTyped hf

theorem IsPlain.readGetters (h : IsPlain s) :
    readGetters (lines (Members.of s).accessors) = s.fields.map fun f => (f.getter, f.name) :=
  readGetters_accessors (TypeNames.of s) h.oneLine_beanName (fun _ hf => h.isWord hf)
    fun _ hf => (h.isTyped hf).oneLine_beanType

theorem IsPlain.nodup_names (h : IsPlain s) : (s.fields.map (·.name)).Nodup :=
  h.named.nodup_names

theorem IsPlain.nodup_getters (h : IsPlain s) : (s.fields.map (·.getter)).Nodup :=
  h.named.nodup_getters

end Members

/-! ## Lookups -/

theorem lookup_map_of_mem {β γ : Type} {l : List β} (key : β → String) (value : β → γ)
    (hd : (l.map key).Nodup) {a : β} (ha : a ∈ l) :
    (l.map fun b => (key b, value b)).lookup (key a) = some (value a) := by
  induction l with
  | nil => cases ha
  | cons b l ih =>
    obtain ⟨hb, hd⟩ := List.nodup_cons.mp hd
    rw [List.map_cons, List.lookup_cons]
    rcases List.mem_cons.mp ha with rfl | ha
    · simp
    · have hne : (key a == key b) = false := by
        rw [beq_eq_false_iff_ne]
        intro he
        exact hb (he ▸ List.mem_map_of_mem ha)
      rw [hne]
      exact ih hd ha

theorem lookup_zip_of_mem {β γ : Type} {l : List β} {values : List γ} (key : β → String)
    (hl : values.length = l.length) (hd : (l.map key).Nodup) {p : β × γ} (hp : p ∈ l.zip values) :
    ((l.map key).zip values).lookup (key p.1) = some p.2 := by
  have hz : (l.map key).zip values = (l.zip values).map fun p => (key p.1, p.2) := by
    rw [List.zip_map_left]
    rfl
  have hk : (l.zip values).map (fun p => key p.1) = l.map key := by
    have hf : (l.zip values).map Prod.fst = l := List.map_fst_zip (by omega)
    calc (l.zip values).map (fun p => key p.1)
        = ((l.zip values).map Prod.fst).map key := by rw [List.map_map]; rfl
      _ = l.map key := by rw [hf]
  rw [hz]
  exact lookup_map_of_mem (fun p => key p.1) (fun p => p.2) (hk ▸ hd) hp

/-! ## Objects -/

/-- Assigning parameters to the fields of the same names stores each argument under its name and
touches nothing else. -/
theorem runAssignments_eq {arguments : List (String × Value α)} {names : List String}
    (h : ∀ n ∈ names, ∃ v, arguments.lookup n = some v) (stored : List (String × Value α)) :
    ∃ stored', runAssignments arguments (names.map fun n => (n, n)) stored = some stored' ∧
      (∀ n ∈ names, stored'.lookup n = arguments.lookup n) ∧
      ∀ n, n ∉ names → stored'.lookup n = stored.lookup n := by
  induction names generalizing stored with
  | nil => exact ⟨stored, rfl, by simp, fun _ _ => rfl⟩
  | cons m names ih =>
    obtain ⟨v, hv⟩ := h m List.mem_cons_self
    obtain ⟨stored', hrun, hin, hout⟩ :=
      ih (fun n hn => h n (List.mem_cons_of_mem m hn)) ((m, v) :: stored)
    refine ⟨stored', ?_, ?_, ?_⟩
    · rw [List.map_cons, runAssignments, hv]
      exact hrun
    · intro n hn
      -- a later assignment to the same name would store the same argument again
      by_cases hmem : n ∈ names
      · exact hin n hmem
      · have hnm : n = m := by
          rcases List.mem_cons.mp hn with hnm | hn
          · exact hnm
          · exact absurd hn hmem
        rw [hout n hmem, hnm, hv, List.lookup_cons_self]
    · intro n hn
      rw [List.mem_cons, not_or] at hn
      have hne : (n == m) = false := beq_eq_false_iff_ne.mpr hn.1
      rw [hout n hn.2, List.lookup_cons, hne]

/-- Overloads differ in their number of parameters, so the arguments settle which one is meant. -/
theorem find?_constructorsOf {fields : List Field} {n : Nat} (hn : n = fields.length) :
    (constructorsOf fields).find? (·.parameters.length == n) =
      some ⟨fields.map fun f => (f.beanType, f.name), fields.map fun f => (f.name, f.name)⟩ := by
  subst hn
  cases fields with
  | nil => rfl
  | cons f rest => simp [constructorsOf]

/-- The constructor that takes as many arguments as there are fields stores each under its field. -/
theorem construct_constructorsOf {fields : List Field} {values : List (Value α)}
    (hl : values.length = fields.length) (hd : (fields.map (·.name)).Nodup) (type : HostType) :
    ∃ stored, construct (constructorsOf fields) type values = some (.bean type stored) ∧
      ∀ p ∈ fields.zip values, stored.lookup p.1.name = some p.2 := by
  have hlookup : ∀ p ∈ fields.zip values,
      ((fields.map (·.name)).zip values).lookup p.1.name = some p.2 :=
    fun p hp => lookup_zip_of_mem Field.name hl hd hp
  have hvalue : ∀ n ∈ fields.map (·.name),
      ∃ v, ((fields.map (·.name)).zip values).lookup n = some v := by
    intro n hn
    obtain ⟨f, hf, rfl⟩ := List.mem_map.mp hn
    obtain ⟨i, hi, rfl⟩ := List.mem_iff_getElem.mp hf
    have hiv : i < values.length := by omega
    refine ⟨values[i], hlookup (fields[i], values[i]) ?_⟩
    exact List.mem_iff_getElem.mpr ⟨i, by simp; omega, by simp⟩
  obtain ⟨stored, hrun, hin, _⟩ := runAssignments_eq hvalue []
  refine ⟨stored, ?_, ?_⟩
  · unfold construct
    rw [find?_constructorsOf hl]
    simp only [Option.bind_eq_bind, Option.bind_some, List.map_map, Function.comp_def] at hrun ⊢
    rw [hrun]
    rfl
  · intro p hp
    have hf : p.1 ∈ fields := (List.of_mem_zip hp).1
    rw [hin p.1.name (List.mem_map_of_mem hf)]
    exact hlookup p hp

theorem callGetter_of_mem {fields : List Field} {values : List (Value α)}
    {stored : List (String × Value α)} (hd : (fields.map (·.getter)).Nodup)
    (hs : ∀ p ∈ fields.zip values, stored.lookup p.1.name = some p.2) :
    ∀ p ∈ fields.zip values,
      callGetter (fields.map fun f => (f.getter, f.name)) stored p.1.getter = some p.2 := by
  intro p hp
  have hg : (fields.map fun f => (f.getter, f.name)).lookup p.1.getter = some p.1.name :=
    lookup_map_of_mem Field.getter Field.name hd (List.of_mem_zip hp).1
  unfold callGetter
  rw [hg]
  exact hs p hp

/-! ## Nested types -/

theorem isNested_fieldOf (catalog : Catalog) (package : Option String) (c : Component) :
    (fieldOf catalog package c).isNested = (nestedRecord? catalog package c.type).isSome := by
  unfold fieldOf nestedRecord?
  cases catalog.resolve? c.type package with
  | none => rfl
  | some h => cases hb : h.hasBean <;> simp [hb]

section Nested
variable {catalog : Catalog} {package : Option String}

/-- The bean type of a nested field leads back to the record its component resolved to. -/
theorem recordOfBeanType?_fieldOf {c : Component} {target : HostType}
    (h : nestedRecord? catalog package c.type = some target) :
    recordOfBeanType? catalog package (fieldOf catalog package c).beanType = some target := by
  have hn : (fieldOf catalog package c).isNested = true := by rw [isNested_fieldOf, h]; rfl
  unfold recordOfBeanType? Field.beanType
  rw [if_pos hn, Name.companion, String.toList_append, dropSuffix?_append]
  simp only [Option.bind_eq_bind, Option.bind_some, String.ofList_toList]
  exact h

theorem mem_of_nestedRecord? {type : String} {target : HostType}
    (h : nestedRecord? catalog package type = some target) :
    target ∈ catalog.types ∧ target.hasBean = true := by
  unfold nestedRecord? at h
  obtain ⟨hr, hb⟩ := Option.filter_eq_some_iff.mp h
  refine ⟨?_, hb⟩
  unfold Catalog.resolve? at hr
  split at hr
  · rename_i found _ hg
    cases hr
    exact List.mem_of_find?_eq_some hg
  · exact List.mem_of_find?_eq_some hr
  · cases hr

end Nested

/-! ## One field -/

/-- A record and a bean, each made from the other with any number of levels from the given one
on. -/
structure Paired (catalog : Catalog) (settings : Settings) (levels : Nat) (type : HostType)
    (record : Value α) (stored : List (String × Value α)) : Prop where
  there : ∀ n, levels ≤ n → beanOf catalog settings n type record = some (.bean type stored)
  back : ∀ n, levels ≤ n → recordOf catalog settings n (.bean type stored) = some record

/-- A component value and the field value that stands for it. -/
inductive Converts (catalog : Catalog) (settings : Settings) (levels : Nat)
    (package : Option String) (f : Field) : Value α → Value α → Prop where
  | kept {v : Value α} (plain : f.isNested = false) : Converts catalog settings levels package f v v
  | null (nested : f.isNested = true) : Converts catalog settings levels package f .null .null
  | converted {target : HostType} {v : Value α} {stored : List (String × Value α)}
      (nested : f.isNested = true) (nonNull : v ≠ .null)
      (type : recordOfBeanType? catalog package f.beanType = some target)
      (paired : Paired catalog settings levels target v stored) :
      Converts catalog settings levels package f v (.bean target stored)

theorem evaluate_unlessNull_null {scope : Scope α} {tested : Expr} (result : Expr)
    (ht : evaluate scope tested = some .null) :
    evaluate scope (.unlessNull tested result) = some .null := by
  simp only [evaluate, ht, Option.bind_eq_bind, Option.bind_some]

theorem evaluate_unlessNull {scope : Scope α} {tested : Expr} {v : Value α} (result : Expr)
    (ht : evaluate scope tested = some v) (hv : v ≠ .null) :
    evaluate scope (.unlessNull tested result) = evaluate scope result := by
  rw [evaluate, ht]
  cases v with
  | null => exact absurd rfl hv
  | given => rfl
  | record => rfl
  | bean => rfl

section Conversion
variable {catalog : Catalog} {settings : Settings} {levels n : Nat} {package : Option String}

/-- What the static method hands over for a field. -/
theorem Converts.evaluate_ofRecord {f : Field} {v b : Value α} {scope : Scope α}
    (h : Converts catalog settings levels package f v b) (hn : levels ≤ n)
    (hc : scope.component f.name = some v)
    (hf : ∀ type value, scope.fromRecord type value = (do
      beanOf catalog settings n (← recordOfBeanType? catalog package type) value)) :
    evaluate scope (Expr.ofRecord f) = some b := by
  have hcomponent : evaluate scope (.component f.name) = some v := hc
  unfold Expr.ofRecord
  cases h with
  | kept plain => rwa [plain]
  | null nested =>
    rw [if_pos nested]
    exact evaluate_unlessNull_null _ hcomponent
  | converted nested nonNull type paired =>
    rw [if_pos nested, evaluate_unlessNull _ hcomponent nonNull, evaluate, hcomponent]
    simp only [Option.bind_eq_bind, Option.bind_some, hf, type, paired.there n hn]

/-- What the conversion of the bean hands over for a field. -/
theorem Converts.evaluate_ofBean {f : Field} {v b : Value α} {scope : Scope α}
    (h : Converts catalog settings levels package f v b) (hn : levels ≤ n)
    (hg : scope.getter f.getter = some b) (hr : scope.toRecord = recordOf catalog settings n) :
    evaluate scope (Expr.ofBean f) = some v := by
  have hgetter : evaluate scope (.getter f.getter) = some b := hg
  unfold Expr.ofBean
  cases h with
  | kept plain => rwa [plain]
  | null nested =>
    rw [if_pos nested]
    exact evaluate_unlessNull_null _ hgetter
  | converted nested nonNull type paired =>
    rw [if_pos nested, evaluate_unlessNull _ hgetter (by simp), evaluate, hgetter]
    simp only [Option.bind_eq_bind, Option.bind_some, hr, paired.back n hn]

/-! ## All fields -/

/-- Component values and field values that are converted into each other, field by field. -/
inductive ConvertsAll (catalog : Catalog) (settings : Settings) (levels : Nat)
    (package : Option String) : List Field → List (Value α) → List (Value α) → Prop where
  | nil : ConvertsAll catalog settings levels package [] [] []
  | cons {f : Field} {fields : List Field} {v b : Value α} {vs bs : List (Value α)}
      (first : Converts catalog settings levels package f v b)
      (others : ConvertsAll catalog settings levels package fields vs bs) :
      ConvertsAll catalog settings levels package (f :: fields) (v :: vs) (b :: bs)

theorem ConvertsAll.length {fields : List Field} {vs bs : List (Value α)}
    (h : ConvertsAll catalog settings levels package fields vs bs) :
    vs.length = fields.length ∧ bs.length = fields.length := by
  induction h with
  | nil => exact ⟨rfl, rfl⟩
  | cons _ _ ih => exact ⟨congrArg (· + 1) ih.1, congrArg (· + 1) ih.2⟩

theorem ConvertsAll.evaluate_ofRecord {fields : List Field} {vs bs : List (Value α)}
    {scope : Scope α} (h : ConvertsAll catalog settings levels package fields vs bs)
    (hn : levels ≤ n) (hc : ∀ p ∈ fields.zip vs, scope.component p.1.name = some p.2)
    (hf : ∀ type value, scope.fromRecord type value = (do
      beanOf catalog settings n (← recordOfBeanType? catalog package type) value)) :
    (fields.map Expr.ofRecord).mapM (evaluate scope) = some bs := by
  induction h with
  | nil => rfl
  | @cons f _ v _ _ _ first _ ih =>
    have hfirst : scope.component f.name = some v := hc (f, v) List.mem_cons_self
    rw [List.map_cons, List.mapM_cons, first.evaluate_ofRecord hn hfirst hf,
      ih fun p hp => hc p (List.mem_cons_of_mem _ hp)]
    rfl

theorem ConvertsAll.evaluate_ofBean {fields : List Field} {vs bs : List (Value α)}
    {scope : Scope α} (h : ConvertsAll catalog settings levels package fields vs bs)
    (hn : levels ≤ n) (hg : ∀ p ∈ fields.zip bs, scope.getter p.1.getter = some p.2)
    (hr : scope.toRecord = recordOf catalog settings n) :
    (fields.map Expr.ofBean).mapM (evaluate scope) = some vs := by
  induction h with
  | nil => rfl
  | @cons f _ _ b _ _ first _ ih =>
    have hfirst : scope.getter f.getter = some b := hg (f, b) List.mem_cons_self
    rw [List.map_cons, List.mapM_cons, first.evaluate_ofBean hn hfirst hr,
      ih fun p hp => hg p (List.mem_cons_of_mem _ hp)]
    rfl

/-- If every marked record that is not too deep goes there and back, so do all components of a
record, each as its own field. -/
theorem exists_convertsAll
    (step : ∀ (target : HostType) (v : Value α), target ∈ catalog.types → target.hasBean = true →
      IsRecordOf catalog settings target v → v.depth ≤ levels →
      ∃ stored, Paired catalog settings levels target v stored)
    {cs : List Component} {vs : List (Value α)} (h : Fill catalog settings package cs vs)
    (hd : depthOfAll vs ≤ levels) :
    ∃ bs, ConvertsAll catalog settings levels package (cs.map (fieldOf catalog package)) vs bs := by
  induction cs generalizing vs with
  | nil =>
    cases vs with
    | nil => exact ⟨[], .nil⟩
    | cons v vs => exact absurd h (by simp [Fill])
  | cons c cs ih =>
    cases vs with
    | nil => exact absurd h (by simp [Fill])
    | cons v vs =>
      rw [Fill] at h
      obtain ⟨hv, hvs⟩ := h
      rw [depthOfAll] at hd
      obtain ⟨bs, hbs⟩ := ih hvs (by omega)
      have hnested := isNested_fieldOf catalog package c
      cases ht : nestedRecord? catalog package c.type with
      | none =>
        rw [ht] at hnested
        exact ⟨v :: bs, .cons (.kept hnested) hbs⟩
      | some target =>
        rw [ht] at hnested hv
        by_cases hnull : v = .null
        · rw [hnull]
          exact ⟨.null :: bs, .cons (.null hnested) hbs⟩
        · have hrecord : IsRecordOf catalog settings target v := hv.resolve_left hnull
          obtain ⟨hm, hb⟩ := mem_of_nestedRecord? ht
          obtain ⟨stored, hpaired⟩ := step target v hm hb hrecord (by omega)
          exact ⟨.bean target stored :: bs,
            .cons (.converted hnested hnull (recordOfBeanType?_fieldOf ht) hpaired) hbs⟩

end Conversion

/-! ## There and back -/

/-- A catalog whose marked records all have beans that can be read back. -/
structure IsConvertible (catalog : Catalog) (settings : Settings) : Prop where
  renders : ∀ h ∈ catalog.types, h.hasBean = true → ∃ s text,
    extract catalog settings h = .ok s ∧ renderOwn s settings.header = .ok text
  oneLine : ∀ h ∈ catalog.types, h.hasBean = true → ∀ c ∈ h.components, '\n' ∉ c.type.toList
  bracketed : ∀ h ∈ catalog.types, h.hasBean = true → ∀ c ∈ h.components,
    wellBracketed 0 c.type.toList = true
  nested : ∀ h ∈ catalog.types, h.hasBean = true → ∀ c ∈ h.components,
    (fieldOf catalog (packageOf settings h) c).isNested = true → IsTypeName c.type

theorem IsConvertible.isPlain {catalog : Catalog} {settings : Settings}
    (hc : IsConvertible catalog settings) {h : HostType} (hm : h ∈ catalog.types)
    (hb : h.hasBean = true) :
    schema? catalog settings h = some (schemaOf catalog settings h) ∧
      IsPlain (schemaOf catalog settings h) := by
  obtain ⟨s, text, hs, ht⟩ := hc.renders h hm hb
  have hschema := extract_eq_schemaOf hs
  subst hschema
  obtain ⟨hsimple, hnamed⟩ := SourceFile.exists_renderOwn_iff.mp ⟨text, ht⟩
  have hcomponent : ∀ f ∈ (schemaOf catalog settings h).fields,
      ∃ c ∈ h.components, fieldOf catalog (packageOf settings h) c = f :=
    fun f hf => List.mem_map.mp hf
  refine ⟨?_, hsimple, hnamed, ?_, ?_, ?_⟩
  · unfold schema?
    rw [hs]
    rfl
  · intro f hf
    obtain ⟨c, hcm, rfl⟩ := hcomponent f hf
    exact hc.oneLine h hm hb c hcm
  · intro f hf
    obtain ⟨c, hcm, rfl⟩ := hcomponent f hf
    exact hc.bracketed h hm hb c hcm
  · intro f hf hn
    obtain ⟨c, hcm, rfl⟩ := hcomponent f hf
    exact hc.nested h hm hb c hcm hn

/-- A record whose components all go there and back goes there and back itself, with one level
more. -/
theorem exists_paired {catalog : Catalog} {settings : Settings} {levels : Nat} {type : HostType}
    {vs bs : List (Value α)}
    (hschema : schema? catalog settings type = some (schemaOf catalog settings type))
    (hp : IsPlain (schemaOf catalog settings type))
    (h : ConvertsAll catalog settings levels (packageOf settings type)
      (schemaOf catalog settings type).fields vs bs) :
    ∃ stored, Paired catalog settings (levels + 1) type (.record type vs) stored := by
  obtain ⟨hvs, hbs⟩ := h.length
  have hnames : (schemaOf catalog settings type).fields.map (·.name) =
      type.components.map (·.name) := by
    unfold schemaOf
    rw [List.map_map]
    rfl
  obtain ⟨stored, hconstruct, hstored⟩ := construct_constructorsOf hbs hp.nodup_names type
  refine ⟨stored, ?_, ?_⟩
  · intro n hn
    -- the record itself takes one level, and the rest is left to its components
    obtain ⟨m, rfl⟩ := Nat.exists_eq_add_of_le' (Nat.le_trans (Nat.le_add_left 1 levels) hn)
    have hcomponent : ∀ p ∈ (schemaOf catalog settings type).fields.zip vs,
        (Value.record type vs).component? p.1.name = some p.2 := by
      intro p hm
      rw [Value.component?, ← hnames]
      exact lookup_zip_of_mem Field.name hvs hp.nodup_names hm
    rw [beanOf, hschema]
    simp only [Option.bind_eq_bind, Option.bind_some, hp.readFromRecord, hp.readConstructors]
    rw [h.evaluate_ofRecord (by omega : levels ≤ m) hcomponent fun _ _ => rfl]
    exact hconstruct
  · intro n hn
    obtain ⟨m, rfl⟩ := Nat.exists_eq_add_of_le' (Nat.le_trans (Nat.le_add_left 1 levels) hn)
    have hlength : vs.length = type.components.length := by
      rw [hvs, ← List.length_map, hnames, List.length_map]
    have hgetter := callGetter_of_mem hp.nodup_getters hstored
    rw [recordOf, hschema]
    simp only [Option.bind_eq_bind, Option.bind_some, hp.readToRecord, hp.readGetters]
    rw [h.evaluate_ofBean (by omega : levels ≤ m) hgetter rfl, Option.bind_some, if_pos hlength]

/-- Record values up to a depth, whichever marked record they belong to. -/
theorem exists_paired_of_depth_le {catalog : Catalog} {settings : Settings}
    (hc : IsConvertible catalog settings) (levels : Nat) {type : HostType} {r : Value α}
    (hm : type ∈ catalog.types) (hb : type.hasBean = true)
    (hr : IsRecordOf catalog settings type r) (hd : r.depth ≤ levels) :
    ∃ stored, Paired catalog settings levels type r stored := by
  induction levels generalizing type r with
  | zero =>
    cases r with
    | record => simp [Value.depth] at hd
    | given => simp [IsRecordOf] at hr
    | null => simp [IsRecordOf] at hr
    | bean => simp [IsRecordOf] at hr
  | succ levels ih =>
    cases r with
    | record t vs =>
      rw [IsRecordOf] at hr
      obtain ⟨rfl, hfill⟩ := hr
      rw [Value.depth] at hd
      obtain ⟨bs, hbs⟩ := exists_convertsAll
        (fun target v htm htb hv hd => ih htm htb hv hd) hfill (by omega)
      obtain ⟨hschema, hp⟩ := hc.isPlain hm hb
      exact exists_paired hschema hp hbs
    | given => simp [IsRecordOf] at hr
    | null => simp [IsRecordOf] at hr
    | bean => simp [IsRecordOf] at hr

/-- Every record value becomes a bean by its own conversion, and the bean becomes the record value
again. The bean is the same however many levels are allowed, if there are as many as records lie
inside each other. -/
theorem recordOf_beanOf {catalog : Catalog} {settings : Settings}
    (hc : IsConvertible catalog settings) {type : HostType} (hm : type ∈ catalog.types)
    (hb : type.hasBean = true) {r : Value α} (hr : IsRecordOf catalog settings type r) :
    ∃ stored, ∀ levels, r.depth ≤ levels →
      beanOf catalog settings levels type r = some (.bean type stored) ∧
      recordOf catalog settings levels (.bean type stored) = some r := by
  obtain ⟨stored, hpaired⟩ := exists_paired_of_depth_le hc r.depth hm hb hr (Nat.le_refl _)
  exact ⟨stored, fun levels hl => ⟨hpaired.there levels hl, hpaired.back levels hl⟩⟩

/-- A record with a component of its own type and one of a record that leads back to it. -/
def person : HostType where
  name := "a.Person"
  kind := .record
  modifiers := []
  package := none
  marker := some Marker.plain
  components := [⟨"scores", "Map<String, Integer>"⟩, ⟨"boss", "Person"⟩, ⟨"home", "a.Place"⟩]

def place : HostType where
  name := "a.Place"
  kind := .record
  modifiers := []
  package := none
  marker := some Marker.plain
  components := [⟨"owner", "Person"⟩]

def household : Catalog := ⟨[person, place], by decide⟩

/-- A person whose boss owns the place that the boss lives in. -/
def employee : Value Nat :=
  .record person [.given 1,
    .record person [.given 2, .null, .record place [.record person [.given 2, .null, .null]]],
    .null]

theorem isConvertible_household : IsConvertible household Settings.default := by
  constructor
  · intro h hm _
    simp only [household, List.mem_cons, List.not_mem_nil, or_false] at hm
    rcases hm with rfl | rfl
    · exact ⟨_, _, rfl, rfl⟩
    · exact ⟨_, _, rfl, rfl⟩
  · decide
  · decide
  · decide

theorem isRecordOf_employee : IsRecordOf household Settings.default person employee := by
  have hself : nestedRecord? household (some "a") "Person" = some person := rfl
  have hplace : nestedRecord? household (some "a") "a.Place" = some place := rfl
  have hopen : nestedRecord? household (some "a") "Map<String, Integer>" = none := rfl
  have hperson : packageOf Settings.default person = some "a" := rfl
  have hhome : packageOf Settings.default place = some "a" := rfl
  have hpersons : person.components =
    [⟨"scores", "Map<String, Integer>"⟩, ⟨"boss", "Person"⟩, ⟨"home", "a.Place"⟩] := rfl
  have hplaces : place.components = [⟨"owner", "Person"⟩] := rfl
  simp [employee, IsRecordOf, Fill, hself, hplace, hopen, hperson, hhome, hpersons, hplaces]

theorem employee_there_and_back :
    IsConvertible household Settings.default ∧ person ∈ household.types ∧ person.hasBean = true ∧
      IsRecordOf household Settings.default person employee ∧
      ∃ stored, ∀ levels, employee.depth ≤ levels →
        beanOf household Settings.default levels person employee = some (.bean person stored) ∧
        recordOf household Settings.default levels (.bean person stored) = some employee :=
  ⟨isConvertible_household, by decide, by decide, isRecordOf_employee,
    recordOf_beanOf isConvertible_household (by decide) (by decide) isRecordOf_employee⟩

end RecordBean.RoundTrip
