import RecordBean.Proofs.Methods

/-! # Laws of the accessors

The accessors of a bean, run as they are printed. A bean has one slot for every field that its class
declares, and a method is looked up by its name, which must not be ambiguous. What a setter writes
the getter of the same field reads; the getters of all other fields read what they read before. Both
need distinct names: a shared slot would break the second, a shared getter the first. -/

namespace RecordBean.Accessors
open RecordBean.Text RecordBean.Reading RecordBean.SourceFile RecordBean.Member RecordBean.Recovery
  RecordBean.Methods

/-! ## Beans -/

/-- What a bean stores: a value in every slot. -/
def State (slots : List String) (α : Type) : Type := {name : String // name ∈ slots} → α

section
variable {slots : List String} {α : Type}

/-- Store a value in one slot. -/
def State.write (b : State slots α) (slot : {name : String // name ∈ slots}) (v : α) :
    State slots α := fun other => if other = slot then v else b other

@[simp] theorem State.write_self (b : State slots α) (slot : {name : String // name ∈ slots})
    (v : α) : b.write slot v slot = v := if_pos rfl

theorem State.write_of_ne {slot other : {name : String // name ∈ slots}} (h : other ≠ slot)
    (b : State slots α) (v : α) : b.write slot v other = b other := if_neg h

@[simp] theorem State.write_write (b : State slots α) (slot : {name : String // name ∈ slots})
    (v w : α) : (b.write slot v).write slot w = b.write slot w := by
  funext other
  by_cases h : other = slot
  · rw [h, State.write_self, State.write_self]
  · rw [State.write_of_ne h, State.write_of_ne h, State.write_of_ne h]

def State.get? (b : State slots α) (name : String) : Option α :=
  if h : name ∈ slots then some (b ⟨name, h⟩) else none

def State.set? (b : State slots α) (name : String) (v : α) : Option (State slots α) :=
  if h : name ∈ slots then some (b.write ⟨name, h⟩ v) else none

/-- What a method returns. -/
inductive Answer (α : Type) where
  /-- The bean itself. -/
  | self
  | value (v : α)

/-- Run the statements of a method, which has to end with a return. The argument comes with the name
of the parameter that holds it. -/
def execute (argument : Option (String × α)) :
    List Statement → State slots α → Option (State slots α × Answer α)
  | [], _ => none
  | .assign field value :: rest, b => do
    let (parameter, v) ← argument
    if value = parameter then
      let b ← b.set? field v
      execute argument rest b
    else none
  | .give field :: rest, b =>
    if rest.isEmpty then (b.get? field).map fun v => (b, .value v) else none
  | .giveSelf :: rest, b => if rest.isEmpty then some (b, .self) else none

end

/-! ## Classes -/

/-- The slots and the methods that a class declares. -/
structure BeanClass where
  slots : List String
  methods : List Method
deriving DecidableEq, Repr

def readClass (ls : List (List Char)) : Option BeanClass := do
  let stored ← readStored ls
  let methods ← readMethods ls
  some ⟨stored.map (·.2), methods⟩

namespace BeanClass
variable {α : Type}

/-- The method of a name, if there is exactly one. -/
def method? (c : BeanClass) (name : String) : Option Method :=
  match c.methods.filter (·.heading.name == name) with
  | [m] => some m
  | _ => none

/-- Call a method by its name, with an argument or without one. -/
def call (c : BeanClass) (b : State c.slots α) (name : String) (argument : Option α) :
    Option (State c.slots α × Answer α) := do
  let m ← c.method? name
  match m.heading.parameter, argument with
  | none, none => execute none m.body b
  | some parameter, some v => execute (some (parameter, v)) m.body b
  | _, _ => none

end BeanClass

/-- Fields that can be set and read independently of each other. -/
structure IsLawful (c : BeanClass) (fields : List Field) (α : Type) : Prop where
  slots : c.slots = fields.map (·.name)
  distinct : c.slots.Nodup
  /-- A getter changes nothing. -/
  get : ∀ (b : State c.slots α) (i : Fin fields.length),
    ∃ v, c.call b fields[i].getter none = some (b, .value v)
  /-- A setter returns the bean it is called on. What it sets is read, also when the field was set
  before, and no other field is touched. -/
  set : ∀ (b : State c.slots α) (i : Fin fields.length) (v : α),
    ∃ after, c.call b fields[i].setter (some v) = some (after, .self) ∧
      c.call after fields[i].getter none = some (after, .value v) ∧
      (∀ j ≠ i, ∀ w, c.call b fields[j].getter none = some (b, .value w) →
        c.call after fields[j].getter none = some (after, .value w)) ∧
      ∀ w, c.call after fields[i].setter (some w) = c.call b fields[i].setter (some w)

/-! ## The class of a bean -/

def getterOf (f : Field) : Method := ⟨⟨f.getter, none⟩, [.give f.name]⟩

def setterOf (f : Field) : Method :=
  ⟨⟨f.setter, some f.name⟩, [.assign f.name f.name, .giveSelf]⟩

/-- The slots and accessors of a bean. -/
def classOf (fields : List Field) : BeanClass where
  slots := fields.map (·.name)
  methods := fields.flatMap fun f => [getterOf f, setterOf f]

/-! ### Reading it -/

theorem readMethods_skip {l : List Char} (rest : List (List Char)) (h : readHeading l = none) :
    readMethods (l :: rest) = readMethods rest := by
  rw [readMethods, h]

theorem readMethods_open {l : List Char} {heading : Heading} {body : List Statement}
    {rest : List (List Char)} (h : readHeading l = some heading)
    (hb : readStatements rest = some body) :
    readMethods (l :: rest) = (readMethods rest).map (⟨heading, body⟩ :: ·) := by
  rw [readMethods, h]
  simp only [hb, Option.bind_eq_bind, Option.bind_some]
  cases readMethods rest <;> rfl

theorem readStatements_cons {l : List Char} {statement : Statement} {body : List Statement}
    {rest : List (List Char)} (hne : l ≠ "  \x7d".toList) (h : readStatement l = some statement)
    (hb : readStatements rest = some body) :
    readStatements (l :: rest) = some (statement :: body) := by
  rw [readStatements, if_neg hne, h, hb]
  rfl

theorem readStatements_close (rest : List (List Char)) :
    readStatements (close.toList :: rest) = some [] := by
  have hclose : close.toList = "  \x7d".toList := rfl
  rw [readStatements, if_pos hclose]

theorem readStatement_give (name : String) :
    readStatement (Member.inner ("return this." ++ name ++ ";")).toList = some (.give name) := by
  have hne : (Member.inner ("return this." ++ name ++ ";")).toList ≠
      "    return this;".toList := by
    intro he
    have := congrArg (·[15]?) he
    simp [Member.inner] at this
  rw [readStatement, if_neg hne, readReturnedField_return]

theorem readStatement_assignment {f : Field} (h : IsWord f.name.toList) :
    readStatement (assignment f).toList = some (.assign f.name f.name) := by
  have hne : (assignment f).toList ≠ "    return this;".toList := by
    intro he
    have := congrArg (·[4]?) he
    simp [assignment, Member.inner] at this
  have hnone : readReturnedField (assignment f).toList = none := by
    have hp : "    return this.".toList[4]? = some 'r' := rfl
    unfold readReturnedField
    rw [dropPrefix?_eq_none 4 hp (by simp [assignment, Member.inner])]
    rfl
  rw [readStatement, if_neg hne, hnone, readAssignment_assignment h]
  rfl

theorem inner_ne_close (text : String) : (Member.inner text).toList ≠ "  \x7d".toList := by
  intro he
  have := congrArg (·[2]?) he
  simp [Member.inner] at this

section
variable {fields : List Field} {names : TypeNames} (hb : '(' ∉ names.bean.toList)
include hb

/-- The lines of a field hold its two accessors. -/
theorem readMethods_fieldLines {f : Field} (rest : List (List Char)) (h : IsWord f.name.toList) :
    readMethods ((fieldLines names f).map String.toList ++ rest) =
      (readMethods rest).map ([getterOf f, setterOf f] ++ ·) := by
  have hgive (more : List (List Char)) : readStatements
      ((Member.inner ("return this." ++ f.name ++ ";")).toList :: close.toList :: more) =
        some [.give f.name] :=
    readStatements_cons (inner_ne_close _) (readStatement_give f.name) (readStatements_close more)
  have hself : readStatement (Member.inner "return this;").toList = some .giveSelf := rfl
  have hassign (more : List (List Char)) : readStatements ((assignment f).toList ::
      (Member.inner "return this;").toList :: close.toList :: more) =
        some [.assign f.name f.name, .giveSelf] :=
    readStatements_cons (inner_ne_close _) (readStatement_assignment h)
      (readStatements_cons (inner_ne_close _) hself (readStatements_close more))
  simp only [fieldLines, getterLines, setterLines, List.map_cons, List.map_nil, List.cons_append,
    List.nil_append]
  rw [readMethods_skip _ (readHeading_storage f), readMethods_skip _ readHeading_empty,
    readMethods_skip _ (readHeading_getterComment f),
    readMethods_open (readHeading_getter h) (hgive _), readMethods_skip _ (readHeading_inner _),
    readMethods_skip _ readHeading_close, readMethods_skip _ readHeading_empty,
    readMethods_skip _ (readHeading_setterComment f),
    readMethods_open (readHeading_setter hb h) (hassign _),
    readMethods_skip _ (readHeading_assignment f),
    readMethods_skip _ (readHeading_inner _), readMethods_skip _ readHeading_close]
  cases readMethods rest <;> rfl

theorem readMethods_accessorLines (rest : List (List Char))
    (hn : ∀ f ∈ fields, IsWord f.name.toList) :
    readMethods ((accessorLines names fields).map String.toList ++ rest) =
      (readMethods rest).map ((classOf fields).methods ++ ·) := by
  fun_induction accessorLines names fields with
  | case1 =>
    rw [List.map_nil, List.nil_append]
    cases readMethods rest <;> rfl
  | case2 f => exact readMethods_fieldLines hb rest (hn f List.mem_cons_self)
  | case3 f g others ih =>
    have hothers := ih fun k hk => hn k (List.mem_cons_of_mem f hk)
    rw [List.map_append, List.append_assoc, readMethods_fieldLines hb _ (hn f List.mem_cons_self),
      List.map_cons, List.cons_append, readMethods_skip _ readHeading_empty, hothers, Option.map_map]
    congr 1

/-- The accessors that were written are the class that is read. -/
theorem readClass_accessorLines (rest : List (List Char)) (hn : ∀ f ∈ fields, IsWord f.name.toList)
    (hs : behind "  private " rest = []) (hm : readMethods rest = some []) :
    readClass ((accessorLines names fields).map String.toList ++ rest) =
      some (classOf fields) := by
  have hdeclares : behind "  private " ((accessorLines names fields).map String.toList ++ rest) =
      fields.map (fun f => (f.beanType ++ " " ++ f.name ++ ";").toList) := by
    rw [behind_append, (behind_accessorLines names fields).1, hs, List.append_nil]
  have hstored := readStored_lines hdeclares fun f hf => (hn f hf).notMem (by decide)
  unfold readClass
  rw [hstored, readMethods_accessorLines hb rest hn, hm]
  simp [classOf]

end

/-! ### Calling its methods -/

theorem filter_key_eq_singleton {β : Type} {l : List β} {key : β → String}
    (hd : (l.map key).Nodup) {a : β} (ha : a ∈ l) : l.filter (key · == key a) = [a] := by
  induction l with
  | nil => cases ha
  | cons b l ih =>
    obtain ⟨hb, hl⟩ := List.nodup_cons.mp hd
    rcases List.mem_cons.mp ha with rfl | ha
    · have hnone : l.filter (key · == key a) = [] := by
        rw [List.filter_eq_nil_iff]
        intro c hc he
        exact hb (List.mem_map.mpr ⟨c, hc, eq_of_beq he⟩)
      rw [List.filter_cons_of_pos (by simp), hnone]
    · have hne : ¬ (key b == key a) = true := by
        intro he
        exact hb (List.mem_map.mpr ⟨a, ha, (eq_of_beq he).symm⟩)
      rw [List.filter_cons, if_neg hne, ih hl ha]

theorem method?_of_mem {c : BeanClass} (hd : (c.methods.map (·.heading.name)).Nodup) {m : Method}
    (hm : m ∈ c.methods) : c.method? m.heading.name = some m := by
  unfold BeanClass.method?
  rw [filter_key_eq_singleton hd hm]

theorem map_name_methods (fields : List Field) :
    (classOf fields).methods.map (·.heading.name) =
      fields.flatMap fun f => [f.getter, f.setter] := by
  unfold classOf
  rw [List.map_flatMap]
  rfl

section
variable {fields : List Field} {α : Type} (h : AreNamed fields)
include h

theorem method?_accessor {f : Field} (hf : f ∈ fields) {m : Method}
    (hm : m ∈ [getterOf f, setterOf f]) : (classOf fields).method? m.heading.name = some m := by
  have hd : ((classOf fields).methods.map (·.heading.name)).Nodup :=
    (map_name_methods fields).symm ▸ h.nodup_accessors
  exact method?_of_mem hd (List.mem_flatMap.mpr ⟨f, hf, hm⟩)

/-- A getter gives what is stored under the name of its field. -/
theorem call_getter (b : State (classOf fields).slots α) {f : Field} (hf : f ∈ fields) :
    (classOf fields).call b f.getter none =
      some (b, .value (b ⟨f.name, List.mem_map_of_mem hf⟩)) := by
  have hslot : f.name ∈ (classOf fields).slots := List.mem_map_of_mem hf
  have hget : b.get? f.name = some (b ⟨f.name, hslot⟩) := dif_pos hslot
  have hmethod : (classOf fields).method? f.getter = some (getterOf f) :=
    method?_accessor h hf List.mem_cons_self
  unfold BeanClass.call
  rw [hmethod]
  simp [getterOf, execute, hget]

/-- A setter stores its argument under the name of its field. -/
theorem call_setter (b : State (classOf fields).slots α) {f : Field} (hf : f ∈ fields) (v : α) :
    (classOf fields).call b f.setter (some v) =
      some (b.write ⟨f.name, List.mem_map_of_mem hf⟩ v, .self) := by
  have hslot : f.name ∈ (classOf fields).slots := List.mem_map_of_mem hf
  have hset : b.set? f.name v = some (b.write ⟨f.name, hslot⟩ v) := dif_pos hslot
  have hmethod : (classOf fields).method? f.setter = some (setterOf f) :=
    method?_accessor h hf (List.mem_cons_of_mem _ List.mem_cons_self)
  unfold BeanClass.call
  rw [hmethod]
  simp only [setterOf, execute, hset, Option.bind_eq_bind, Option.bind_some, if_true,
    List.isEmpty_nil]

/-- Different fields have different slots. -/
theorem name_ne_of_ne {i j : Fin fields.length} (hne : j ≠ i) :
    fields[j].name ≠ fields[i].name := by
  intro he
  have hfields : fields.Nodup := List.Nodup.of_map _ h.nodup_names
  have hsame : fields[j] = fields[i] :=
    List.inj_on_of_nodup_map h.nodup_names (List.getElem_mem j.isLt) (List.getElem_mem i.isLt) he
  exact hne (Fin.ext (hfields.getElem_inj_iff.mp hsame))

theorem isLawful_classOf : IsLawful (classOf fields) fields α := by
  constructor
  · rfl
  · exact h.nodup_names
  · intro b i
    exact ⟨_, call_getter h b (List.getElem_mem i.isLt)⟩
  · intro b i v
    have hi : fields[i] ∈ fields := List.getElem_mem i.isLt
    refine ⟨_, call_setter h b hi v, ?_, ?_, ?_⟩
    · rw [call_getter h _ hi, State.write_self]
    · intro j hne w hw
      have hj : fields[j] ∈ fields := List.getElem_mem j.isLt
      have hslot : (⟨fields[j].name, List.mem_map_of_mem hj⟩ :
          {name : String // name ∈ (classOf fields).slots}) ≠
            ⟨fields[i].name, List.mem_map_of_mem hi⟩ := by
        intro he
        exact name_ne_of_ne h hne (congrArg Subtype.val he)
      rw [call_getter h b hj] at hw
      obtain ⟨_, hvalue⟩ := Prod.mk.inj (Option.some.inj hw)
      rw [call_getter h _ hj, State.write_of_ne hslot, hvalue]
    · intro w
      rw [call_setter h _ hi, call_setter h _ hi, State.write_write]

end

theorem lines_accessors {s : Schema} (hs : IsWord s.simpleName.toList)
    (hn : ∀ f ∈ s.fields, IsWord f.name.toList)
    (ht : ∀ f ∈ s.fields, '\n' ∉ f.declaredType.toList) :
    lines (Members.of s).accessors =
      (accessorLines (TypeNames.of s) s.fields).map String.toList ++ [[]] := by
  refine lines_unlines (oneLine_accessorLines fun f hf => oneLine_fieldLines ?_ ?_ (hn f hf) ?_)
  · exact notMem_beanName hs (by decide)
  · exact oneLine_beanType (ht f hf)
  · exact fun c hc => Name.isWordChar_capitalize (hn f hf) hc

/-- The accessors of a rendered bean whose types stand on one line declare a slot for every field,
and its fields can be set and read independently of each other. -/
theorem accessors_lawful {s : Schema} {header text : String} (h : renderOwn s header = .ok text)
    (ht : ∀ f ∈ s.fields, '\n' ∉ f.declaredType.toList) :
    ∃ c, readClass (lines (Members.of s).accessors) = some c ∧
      ∀ α : Type, IsLawful c s.fields α := by
  obtain ⟨hs, hn⟩ := isWord_of_renderOwn h
  have hnamed : AreNamed s.fields := (exists_renderOwn_iff.mp ⟨text, h⟩).2
  refine ⟨classOf s.fields, ?_, fun α => isLawful_classOf hnamed⟩
  rw [lines_accessors hs hn ht]
  exact readClass_accessorLines (notMem_beanName hs (by decide)) [[]] hn rfl rfl

/-- A coffee bean keeps its taste and its prices apart. -/
theorem coffee_accessors_lawful :
    ∃ text, renderOwn coffee defaultHeader = .ok text ∧
      (∀ f ∈ coffee.fields, '\n' ∉ f.declaredType.toList) ∧
      ∃ c, readClass (lines (Members.of coffee).accessors) = some c ∧
        c.slots = ["taste", "prices"] ∧ ∀ α : Type, IsLawful c coffee.fields α := by
  obtain ⟨text, h⟩ := exists_renderOwn_coffee
  obtain ⟨c, hc, hlawful⟩ := accessors_lawful h (by decide)
  exact ⟨text, h, by decide, c, hc, (hlawful Unit).slots, hlawful⟩

end RecordBean.Accessors
