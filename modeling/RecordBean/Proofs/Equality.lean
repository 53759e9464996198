import RecordBean.Proofs.Accessors
import RecordBean.Proofs.Reading.Conditions

/-! # The contract of equals and hashCode

The comparison of beans, run as it is printed: conditions from left to right, no further than
needed, with getters looked up by name in the class of the bean. Two beans are equal if they are one
object or if all their fields are the same; `hashCode` looks at the same fields, once each. So
equality is an equivalence on beans as soon as sameness of values is one, and equal beans have equal
hash codes as soon as same values have. -/

namespace RecordBean.Equality
open RecordBean.Text RecordBean.Reading RecordBean.SourceFile RecordBean.Member RecordBean.Recovery
  RecordBean.Methods RecordBean.Accessors

/-! ## Running conditions -/

/-- The objects of a running program, for a class of beans and its name. -/
structure World (bean : String) (c : BeanClass) (ω α : Type) where
  /-- What an object stores, if it is a bean of the class; the class has no subclasses. -/
  stateOf : ω → Option (State c.slots α)
  /-- How `==` compares the values of fields. -/
  same : α → α → Bool

inductive Value (ω α : Type) where
  | object (o : ω)
  | stored (v : α)

/-- The variables in scope, the latest first. -/
abbrev Scope (ω : Type) : Type := List (String × ω)

namespace World

section
variable {bean : String} {c : BeanClass} {ω α : Type} (w : World bean c ω α)

/-- Whether an object is a bean. -/
def IsBean (o : ω) : Prop := (w.stateOf o).isSome = true

/-- The value of an operand for an object whose method runs. -/
def operand (self : ω) (scope : Scope ω) : Operand → Option (Value ω α)
  | .self => some (.object self)
  | .named name => (scope.lookup name).map .object
  | .field name => do
    let b ← w.stateOf self
    let v ← b.get? name
    some (.stored v)
  | .call name method => do
    let o ← scope.lookup name
    let b ← w.stateOf o
    match c.call b method none with
    | some (_, .value v) => some (.stored v)
    | _ => none

/-- The values that `hashCode` hashes, in order. -/
def hashedValues (e : Equality) (self : ω) : Option (List α) :=
  e.hashed.mapM fun argument => do
    match ← w.operand self [] argument with
    | .stored v => some v
    | .object _ => none

/-- What `hashCode` answers: the codes of the values, combined in order. -/
def hashCode {κ : Type} (code : α → κ) (combine : List κ → κ) (e : Equality) (self : ω) :
    Option κ :=
  (w.hashedValues e self).map fun vs => combine (vs.map code)

variable [DecidableEq ω]

/-- What `==` answers: identity for objects. An object is not compared with the value of a field. -/
def compare : Value ω α → Value ω α → Option Bool
  | .object o, .object p => some (decide (o = p))
  | .stored u, .stored v => some (w.same u v)
  | _, _ => none

/-- The outcome of a test, and the variables in scope behind it. No class but that of the bean is
known. -/
def test (self : ω) (scope : Scope ω) : Test → Option (Bool × Scope ω)
  | .same left right => do
    let left ← w.operand self scope left
    let right ← w.operand self scope right
    let answer ← w.compare left right
    some (answer, scope)
  | .isA object type name => do
    let o ← scope.lookup object
    if type = bean then
      if (w.stateOf o).isSome then some (true, (name, o) :: scope) else some (false, scope)
    else none

/-- A conjunction, up to the first test that fails. -/
def allOf (self : ω) : Scope ω → List Test → Option Bool
  | _, [] => some true
  | scope, t :: rest => do
    let (answer, scope) ← w.test self scope t
    if answer then allOf self scope rest else some false

/-- Alternatives, up to the first one that holds. -/
def anyOf (self : ω) (scope : Scope ω) : List (List Test) → Option Bool
  | [] => some false
  | tests :: rest => do
    let answer ← w.allOf self scope tests
    if answer then some true else anyOf self scope rest

/-- What `equals` answers for an object and another one. -/
def equals (e : Equality) (self other : ω) : Option Bool :=
  w.anyOf self [("other", other)] e.alternatives

end

end World

/-! ## The contract -/

/-- Beans are equal exactly if they are one object or all their fields are the same. Then equality
is an equivalence on beans, no other object is equal to a bean, and equal beans have equal hash
codes. -/
structure IsContract {bean : String} {c : BeanClass} {ω α : Type} [DecidableEq ω]
    (w : World bean c ω α) (e : Equality) : Prop where
  equals_iff : ∀ (o p : ω) (a b : State c.slots α), w.stateOf o = some a → w.stateOf p = some b →
    ∃ answer, w.equals e o p = some answer ∧
      (answer = true ↔ o = p ∨ ∀ slot, w.same (a slot) (b slot) = true)
  equivalence : Equivalence fun o p : {o : ω // w.IsBean o} => w.equals e o.val p.val = some true
  others : ∀ o p : ω, w.IsBean o → ¬ w.IsBean p → w.equals e o p = some false
  hashCode : ∀ {κ : Type} (code : α → κ) (combine : List κ → κ),
    (∀ u v, w.same u v = true → code u = code v) →
    ∀ o p : ω, w.IsBean o → w.IsBean p → w.equals e o p = some true →
      ∃ k, w.hashCode code combine e o = some k ∧ w.hashCode code combine e p = some k

/-! ## The comparison of a bean -/

/-- The slot of a field. -/
def slotOf {fields : List Field} {f : Field} (hf : f ∈ fields) :
    {name : String // name ∈ (classOf fields).slots} := ⟨f.name, List.mem_map_of_mem hf⟩

section
variable {fields : List Field} {names : TypeNames} {ω α : Type}
  {w : World names.bean (classOf fields) ω α} {o p : ω} {a b : State (classOf fields).slots α}

theorem operand_field {scope : Scope ω} (ha : w.stateOf o = some a) {f : Field} (hf : f ∈ fields) :
    w.operand o scope (.field f.name) = some (.stored (a (slotOf hf))) := by
  have hget : a.get? f.name = some (a (slotOf hf)) := dif_pos (slotOf hf).property
  simp only [World.operand, ha, hget, Option.bind_eq_bind, Option.bind_some]

theorem operand_call {scope : Scope ω} {name : String} (h : AreNamed fields)
    (hs : scope.lookup name = some p) (hb : w.stateOf p = some b) {f : Field} (hf : f ∈ fields) :
    w.operand o scope (.call name f.getter) = some (.stored (b (slotOf hf))) := by
  have hcall := call_getter h b hf
  simp only [World.operand, hs, hb, hcall, Option.bind_eq_bind, Option.bind_some]
  rfl

/-- The values that are hashed are those of all fields, in order. -/
theorem hashedValues_equalityOf (ha : w.stateOf o = some a) :
    w.hashedValues (equalityOf fields names) o =
      some (fields.attach.map fun f => a (slotOf f.property)) := by
  have hhashed : (equalityOf fields names).hashed =
      fields.attach.map fun f => .field f.val.name :=
    List.attach_map_val.symm
  unfold World.hashedValues
  rw [hhashed]
  refine mapM_map_eq_some fun f _ => ?_
  rw [operand_field ha f.property]
  rfl

variable [DecidableEq ω]

theorem test_comparison {scope : Scope ω} {name : String} (h : AreNamed fields)
    (ha : w.stateOf o = some a) (hs : scope.lookup name = some p) (hb : w.stateOf p = some b)
    {f : Field} (hf : f ∈ fields) :
    w.test o scope (.same (.field f.name) (.call name f.getter)) =
      some (w.same (a (slotOf hf)) (b (slotOf hf)), scope) := by
  simp only [World.test, operand_field ha hf, operand_call h hs hb hf, World.compare,
    Option.bind_eq_bind, Option.bind_some]

/-- The tests of a part of the fields hold exactly if these fields are the same. -/
theorem allOf_comparisons {scope : Scope ω} {name : String} (h : AreNamed fields)
    (ha : w.stateOf o = some a) (hs : scope.lookup name = some p) (hb : w.stateOf p = some b)
    {part : List Field} (hpart : ∀ f ∈ part, f ∈ fields) :
    ∃ answer, w.allOf o scope
        (part.map fun f => .same (.field f.name) (.call name f.getter)) = some answer ∧
      (answer = true ↔ ∀ f, ∀ hf : f ∈ fields, f ∈ part →
        w.same (a (slotOf hf)) (b (slotOf hf)) = true) := by
  induction part with
  | nil => exact ⟨true, rfl, by simp⟩
  | cons f rest ih =>
    obtain ⟨hf, hrest⟩ := List.forall_mem_cons.mp hpart
    obtain ⟨answer, hanswer, hiff⟩ := ih hrest
    have htest := test_comparison h ha hs hb hf
    cases hsame : w.same (a (slotOf hf)) (b (slotOf hf)) with
    | false =>
      refine ⟨false, ?_, ?_⟩
      · simp [World.allOf, htest, hsame]
      · refine iff_of_false (by decide) fun hall => ?_
        rw [hall f hf List.mem_cons_self] at hsame
        cases hsame
    | true =>
      refine ⟨answer, ?_, ?_⟩
      · simp [World.allOf, htest, hsame, hanswer]
      · rw [hiff]
        constructor
        · intro hall g hg hm
          rcases List.mem_cons.mp hm with rfl | hm
          · exact hsame
          · exact hall g hg hm
        · intro hall g hg hm
          exact hall g hg (List.mem_cons_of_mem f hm)

/-- All fields are the same exactly if all slots are. -/
theorem forall_slot_iff {P : {name : String // name ∈ (classOf fields).slots} → Prop} :
    (∀ f, ∀ hf : f ∈ fields, f ∈ fields → P (slotOf hf)) ↔ ∀ slot, P slot := by
  constructor
  · rintro hall ⟨name, hname⟩
    obtain ⟨f, hf, rfl⟩ := List.mem_map.mp hname
    exact hall f hf hf
  · intro hall f hf _
    exact hall (slotOf hf)

/-- The two alternatives: identity, or the test for the class with the comparisons behind it. -/
theorem equals_equalityOf :
    w.equals (equalityOf fields names) o p =
      if o = p then some true
      else (w.allOf o [("other", p)] (.isA "other" names.bean (otherName names) ::
        fields.map fun f => .same (.field f.name) (.call (otherName names) f.getter))) := by
  have htest : w.test o [("other", p)] (.same .self (.named "other")) =
      some (decide (o = p), [("other", p)]) := rfl
  have hfirst : w.allOf o [("other", p)] [.same .self (.named "other")] =
      some (decide (o = p)) := by
    rw [World.allOf, htest]
    by_cases hsame : o = p <;> simp [World.allOf, hsame]
  unfold World.equals equalityOf
  rw [World.anyOf, hfirst]
  by_cases hsame : o = p
  · simp [hsame]
  · simp only [Option.bind_eq_bind, Option.bind_some, hsame, decide_false, Bool.false_eq_true,
      if_false]
    rw [World.anyOf]
    cases w.allOf o [("other", p)] (.isA "other" names.bean (otherName names) ::
        fields.map fun f => .same (.field f.name) (.call (otherName names) f.getter)) with
    | none => rfl
    | some answer => cases answer <;> rfl

theorem equals_bean (h : AreNamed fields) (ha : w.stateOf o = some a) (hb : w.stateOf p = some b) :
    ∃ answer, w.equals (equalityOf fields names) o p = some answer ∧
      (answer = true ↔ o = p ∨ ∀ slot, w.same (a slot) (b slot) = true) := by
  have htest : w.test o [("other", p)] (.isA "other" names.bean (otherName names)) =
      some (true, [(otherName names, p), ("other", p)]) := by
    have hlookup : [("other", p)].lookup "other" = some p := rfl
    simp [World.test, hlookup, hb]
  have hscope : [(otherName names, p), ("other", p)].lookup (otherName names) = some p := by
    simp
  obtain ⟨answer, hanswer, hiff⟩ := allOf_comparisons h ha hscope hb fun f hf => hf
  rw [equals_equalityOf]
  by_cases hsame : o = p
  · exact ⟨true, if_pos hsame, iff_of_true rfl (Or.inl hsame)⟩
  · refine ⟨answer, ?_, ?_⟩
    · rw [if_neg hsame, World.allOf, htest]
      exact hanswer
    · have hslots := forall_slot_iff (P := fun slot => w.same (a slot) (b slot) = true)
      exact (hiff.trans hslots).trans (or_iff_right hsame).symm

theorem equals_other (ho : w.IsBean o) (hp : ¬ w.IsBean p) :
    w.equals (equalityOf fields names) o p = some false := by
  have hne : o ≠ p := by
    rintro rfl
    exact hp ho
  have htest : w.test o [("other", p)] (.isA "other" names.bean (otherName names)) =
      some (false, [("other", p)]) := by
    have hlookup : [("other", p)].lookup "other" = some p := rfl
    have hnone : (w.stateOf p).isSome = false := Bool.eq_false_iff.mpr hp
    simp [World.test, hlookup, hnone]
  rw [equals_equalityOf, if_neg hne, World.allOf, htest]
  rfl

/-- One object has one state, so identity adds nothing if a value is the same as itself. -/
theorem equals_iff_same (h : AreNamed fields) (hs : Equivalence fun u v => w.same u v = true)
    (ha : w.stateOf o = some a) (hb : w.stateOf p = some b) :
    w.equals (equalityOf fields names) o p = some true ↔
      ∀ slot, w.same (a slot) (b slot) = true := by
  obtain ⟨answer, hanswer, hiff⟩ := equals_bean h ha hb
  rw [hanswer, Option.some_inj, hiff]
  constructor
  · rintro (rfl | hall)
    · rw [ha] at hb
      cases hb
      exact fun slot => hs.refl (a slot)
    · exact hall
  · exact Or.inr

theorem equivalence_equals (h : AreNamed fields) (hs : Equivalence fun u v => w.same u v = true) :
    Equivalence fun o p : {o : ω // w.IsBean o} =>
      w.equals (equalityOf fields names) o.val p.val = some true := by
  have hstate (o : {o : ω // w.IsBean o}) : ∃ a, w.stateOf o.val = some a :=
    Option.isSome_iff_exists.mp o.property
  constructor
  · intro o
    obtain ⟨a, ha⟩ := hstate o
    exact (equals_iff_same h hs ha ha).mpr fun slot => hs.refl (a slot)
  · intro o p hop
    obtain ⟨a, ha⟩ := hstate o
    obtain ⟨b, hb⟩ := hstate p
    have hsame := (equals_iff_same h hs ha hb).mp hop
    exact (equals_iff_same h hs hb ha).mpr fun slot => hs.symm (hsame slot)
  · intro o p q hop hpq
    obtain ⟨a, ha⟩ := hstate o
    obtain ⟨b, hb⟩ := hstate p
    obtain ⟨d, hd⟩ := hstate q
    have hfirst := (equals_iff_same h hs ha hb).mp hop
    have hsecond := (equals_iff_same h hs hb hd).mp hpq
    exact (equals_iff_same h hs ha hd).mpr fun slot => hs.trans (hfirst slot) (hsecond slot)

/-- Both methods look at the same values, so equal beans have equal hash codes. -/
theorem hashCode_eq (h : AreNamed fields) (hs : Equivalence fun u v => w.same u v = true)
    {κ : Type} {code : α → κ} (combine : List κ → κ)
    (hcode : ∀ u v, w.same u v = true → code u = code v) (ho : w.IsBean o) (hp : w.IsBean p)
    (heq : w.equals (equalityOf fields names) o p = some true) :
    ∃ k, w.hashCode code combine (equalityOf fields names) o = some k ∧
      w.hashCode code combine (equalityOf fields names) p = some k := by
  obtain ⟨a, ha⟩ := Option.isSome_iff_exists.mp ho
  obtain ⟨b, hb⟩ := Option.isSome_iff_exists.mp hp
  have hsame := (equals_iff_same h hs ha hb).mp heq
  have hcodes : (fields.attach.map fun f => a (slotOf f.property)).map code =
      (fields.attach.map fun f => b (slotOf f.property)).map code := by
    rw [List.map_map, List.map_map]
    exact List.map_congr_left fun f _ => hcode _ _ (hsame (slotOf f.property))
  refine ⟨combine ((fields.attach.map fun f => b (slotOf f.property)).map code), ?_, ?_⟩
  · rw [World.hashCode, hashedValues_equalityOf ha, Option.map_some, hcodes]
  · rw [World.hashCode, hashedValues_equalityOf hb, Option.map_some]

theorem isContract_equalityOf (h : AreNamed fields)
    (hs : Equivalence fun u v => w.same u v = true) :
    IsContract w (equalityOf fields names) where
  equals_iff _ _ _ _ ha hb := equals_bean h ha hb
  equivalence := equivalence_equals h hs
  others _ _ := equals_other
  hashCode _ combine hcode _ _ := hashCode_eq h hs combine hcode

end

/-- The fields that `equals` compares, in order. -/
def comparedFields (e : Equality) : List String :=
  e.alternatives.flatten.filterMap fun
    | .same (.field name) _ => some name
    | _ => none

theorem comparedFields_equalityOf (fields : List Field) (names : TypeNames) :
    comparedFields (equalityOf fields names) = fields.map (·.name) := by
  simp [comparedFields, equalityOf, List.filterMap_map]

/-- Every rendered bean keeps the contract of `equals` and `hashCode`. Its class is read from the
lines of the accessors as they are printed, which are the lines of the text if the types stand on
one line each. The fields that are compared are the fields that are hashed: all of them, once each
and in order. -/
theorem equality_contract {s : Schema} {header text : String} (h : renderOwn s header = .ok text) :
    ∃ c e, readClass ((accessorLines (TypeNames.of s) s.fields).map String.toList) = some c ∧
      readEquality (Members.of s).equality = some e ∧
      ((∀ f ∈ s.fields, '\n' ∉ f.declaredType.toList) →
        lines (Members.of s).accessors =
          (accessorLines (TypeNames.of s) s.fields).map String.toList ++ [[]]) ∧
      comparedFields e = s.fields.map (·.name) ∧ (comparedFields e).Nodup ∧
      e.hashed = (comparedFields e).map .field ∧ c.slots = comparedFields e ∧
      ∀ (ω α : Type) [DecidableEq ω] (w : World s.beanName c ω α),
        Equivalence (fun u v => w.same u v = true) → IsContract w e := by
  obtain ⟨hs, hn⟩ := isWord_of_renderOwn h
  have hnamed : AreNamed s.fields := (exists_renderOwn_iff.mp ⟨text, h⟩).2
  have hcompared := comparedFields_equalityOf s.fields (TypeNames.of s)
  refine ⟨classOf s.fields, equalityOf s.fields (TypeNames.of s), ?_,
    readEquality_equality (isWord_beanName hs) hn, lines_accessors hs hn, hcompared, ?_, ?_,
    hcompared.symm, ?_⟩
  · have hopen : '(' ∉ (TypeNames.of s).bean.toList := notMem_beanName hs (by decide)
    have hclass := readClass_accessorLines hopen [] hn rfl rfl
    rwa [List.append_nil] at hclass
  · rw [hcompared]
    exact hnamed.nodup_names
  · rw [hcompared, List.map_map]
    rfl
  · intro ω α _ w hsame
    exact @isContract_equalityOf s.fields (TypeNames.of s) ω α w _ hnamed hsame

/-- Two coffee beans with the same values in all fields; all other objects are no beans. -/
def twoCoffees (c : BeanClass) : World coffee.beanName c Nat Nat where
  stateOf o := if o < 2 then some fun _ => 0 else none
  same u v := u == v

/-- The two beans are equal, and neither is equal to anything else. -/
theorem coffee_equality_contract :
    ∃ text c e, renderOwn coffee defaultHeader = .ok text ∧
      readClass ((accessorLines (TypeNames.of coffee) coffee.fields).map String.toList) = some c ∧
      readEquality (Members.of coffee).equality = some e ∧
      Equivalence (fun u v => (twoCoffees c).same u v = true) ∧
      (twoCoffees c).equals e 0 1 = some true ∧ (twoCoffees c).equals e 0 2 = some false := by
  obtain ⟨text, h⟩ := exists_renderOwn_coffee
  obtain ⟨c, e, hc, he, _, _, _, _, _, hcontract⟩ := equality_contract h
  have hsame : Equivalence fun u v => (twoCoffees c).same u v = true := by
    simpa [twoCoffees] using eq_equivalence (α := Nat)
  have htwo := hcontract Nat Nat (twoCoffees c) hsame
  have hother : ¬ (twoCoffees c).IsBean 2 := by
    simp [World.IsBean, twoCoffees]
  refine ⟨text, c, e, h, hc, he, hsame, ?_, htwo.others 0 2 rfl hother⟩
  obtain ⟨answer, hanswer, hiff⟩ := htwo.equals_iff 0 1 (fun _ => 0) (fun _ => 0) rfl rfl
  rw [hanswer, hiff.mpr (Or.inr fun _ => rfl)]

end RecordBean.Equality
