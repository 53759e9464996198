import RecordBean.Proofs.Reading.Arguments

/-! # Reading constructors and getters

How a bean takes its values in and gives them out again: the constructors with their parameters and
assignments, and the getters with the field each of them returns. Both are read line by line. Types
stand in these lines verbatim, so a parameter is found by the commas outside angle brackets and its
name behind the last blank; a line of one kind is never taken for one of the other. -/

namespace RecordBean.Reading
open RecordBean.Text RecordBean.Member

/-! ## Constructors -/

/-- A constructor: types and names of the parameters, and pairs of a field and the parameter that
is assigned to it. -/
structure Constructor where
  parameters : List (String × String)
  assignments : List (String × String)
deriving DecidableEq, Repr

/-- A type and behind the last blank a name. -/
def readTyped (cs : List Char) : Option (String × String) :=
  (Name.splitAtLast ' ' cs).map fun (type, name) => (String.ofList type, String.ofList name)

/-- The assignment of a name to a field of the bean. -/
def readAssignment (line : List Char) : Option (String × String) := do
  let statement ← line.dropPrefix? "    this.".toList
  let statement ← statement.dropSuffix? ";".toList
  let (field, rest) ← cut ' ' statement
  let value ← rest.dropPrefix? "= ".toList
  some (String.ofList field, String.ofList value)

/-- The assignments up to the line that closes the member. -/
def readAssignments : List (List Char) → Option (List (String × String))
  | [] => none
  | line :: rest =>
    if line = close.toList then some []
    else do
      let assignment ← readAssignment line
      let assignments ← readAssignments rest
      some (assignment :: assignments)

/-- The constructor that a line begins, given what stands behind its name there and the lines that
follow. -/
def readConstructor (opened : List Char) (rest : List (List Char)) : Option Constructor :=
  match opened.dropSuffix? ") \x7b".toList with
  | some list => do
    let parameters ← (items list).mapM readTyped
    let assignments ← readAssignments rest
    some ⟨parameters, assignments⟩
  | none => if opened = ") \x7b\x7d".toList then some ⟨[], []⟩ else none

/-- The constructors of a class, in order. -/
def readConstructors (className : String) : List (List Char) → Option (List Constructor)
  | [] => some []
  | line :: rest =>
    match line.dropPrefix? ("  public " ++ className ++ "(").toList with
    | none => readConstructors className rest
    | some opened => do
      let first ← readConstructor opened rest
      let others ← readConstructors className rest
      some (first :: others)

/-! ## Getters -/

/-- The name of the method without parameters that a line begins. -/
def readMethod (line : List Char) : Option String := do
  let method ← line.dropPrefix? "  public ".toList
  let method ← method.dropSuffix? "() \x7b".toList
  let (_, name) ← readTyped method
  some name

/-- The field that a line returns. -/
def readReturnedField (line : List Char) : Option String := do
  let statement ← line.dropPrefix? "    return this.".toList
  let name ← statement.dropSuffix? ";".toList
  some (String.ofList name)

/-- The methods that return a field, each with its name and the field. -/
def readGetters : List (List Char) → List (String × String)
  | [] => []
  | line :: rest =>
    match readMethod line, rest.head?.bind readReturnedField with
    | some method, some field => (method, field) :: readGetters rest
    | _, _ => readGetters rest

/-! ## Single lines -/

/-- The types and names that are written in lines: the type of a field stands on one line, with
commas only inside its balanced angle brackets. -/
structure IsTyped (f : Field) : Prop where
  name : IsWord f.name.toList
  oneLine : '\n' ∉ f.declaredType.toList
  bracketed : wellBracketed 0 f.declaredType.toList = true

theorem IsTyped.oneLine_beanType {f : Field} (h : IsTyped f) : '\n' ∉ f.beanType.toList := by
  unfold Field.beanType
  split
  · rw [Name.companion, String.toList_append, List.mem_append, not_or]
    exact ⟨h.oneLine, by decide⟩
  · exact h.oneLine

theorem IsTyped.bracketed_beanType {f : Field} (h : IsTyped f) :
    wellBracketed 0 f.beanType.toList = true := by
  unfold Field.beanType
  split
  · rw [Name.companion, String.toList_append]
    exact wellBracketed_append h.bracketed (by decide)
  · exact h.bracketed

theorem readTyped_append {name : String} (type : String) (h : ' ' ∉ name.toList) :
    readTyped (type.toList ++ ' ' :: name.toList) = some (type, name) := by
  unfold readTyped
  rw [Name.splitAtLast_eq_some.mpr ⟨rfl, h⟩]
  simp

theorem toList_parameter (f : Field) :
    (parameter f).toList = f.beanType.toList ++ ' ' :: f.name.toList := by
  have hs : " ".toList = [' '] := rfl
  rw [parameter, String.toList_append, String.toList_append, hs]
  simp

theorem readTyped_parameter {f : Field} (h : IsWord f.name.toList) :
    readTyped (parameter f).toList = some (f.beanType, f.name) := by
  rw [toList_parameter]
  exact readTyped_append f.beanType (h.notMem (by decide))

theorem readAssignment_assignment {f : Field} (h : IsWord f.name.toList) :
    readAssignment (assignment f).toList = some (f.name, f.name) := by
  have ht : (assignment f).toList =
      "    this.".toList
        ++ ((f.name.toList ++ ' ' :: ("= ".toList ++ f.name.toList)) ++ ";".toList) := by
    simp [assignment, Member.inner]
  unfold readAssignment
  rw [ht, dropPrefix?_append]
  simp only [Option.bind_eq_bind, Option.bind_some, dropSuffix?_append,
    cut_append _ (h.notMem (c := ' ') (by decide)), dropPrefix?_append, String.ofList_toList]

theorem readAssignments_assignments {fields : List Field} (rest : List (List Char))
    (h : ∀ f ∈ fields, IsWord f.name.toList) :
    readAssignments (fields.map (fun f => (assignment f).toList) ++ close.toList :: rest) =
      some (fields.map fun f => (f.name, f.name)) := by
  induction fields with
  | nil => simp [readAssignments]
  | cons f fields ih =>
    have hne : (assignment f).toList ≠ close.toList := by
      intro he
      have := congrArg (·[2]?) he
      simp [assignment, Member.inner, close, outer] at this
    rw [List.map_cons, List.cons_append, readAssignments, if_neg hne,
      readAssignment_assignment (h f List.mem_cons_self),
      ih fun g hg => h g (List.mem_cons_of_mem f hg)]
    rfl

/-! ## All constructors of a bean -/

/-- The constructors of a bean: one without parameters and, unless there are no fields, one with
all fields in order. -/
def constructorsOf (fields : List Field) : List Constructor :=
  if fields.isEmpty then [⟨[], []⟩]
  else [⟨[], []⟩,
    ⟨fields.map fun f => (f.beanType, f.name), fields.map fun f => (f.name, f.name)⟩]

theorem readConstructors_skip {className : String} {l : List Char} (rest : List (List Char))
    (h : l[2]? ≠ some 'p') :
    readConstructors className (l :: rest) = readConstructors className rest := by
  have hp : ("  public " ++ className ++ "(").toList[2]? = some 'p' := by
    rw [String.toList_append, String.toList_append]
    rfl
  rw [readConstructors, dropPrefix?_eq_none 2 hp h]

theorem readConstructors_cons {className : String} {opened : List Char} (rest : List (List Char)) :
    readConstructors className ((("  public " ++ className ++ "(").toList ++ opened) :: rest) =
      (do
        let first ← readConstructor opened rest
        let others ← readConstructors className rest
        some (first :: others)) := by
  rw [readConstructors, dropPrefix?_append]

/-- Text behind the constructors of a class that holds none. -/
theorem readConstructors_skipAll {className : String} {ls : List (List Char)}
    (h : ∀ l ∈ ls, l[2]? ≠ some 'p') : readConstructors className ls = some [] := by
  induction ls with
  | nil => rfl
  | cons l ls ih =>
    rw [readConstructors_skip ls (h l List.mem_cons_self)]
    exact ih fun m hm => h m (List.mem_cons_of_mem l hm)

theorem assignment_not_declaration (f : Field) : (assignment f).toList[2]? ≠ some 'p' := by
  simp [assignment, Member.inner]

/-- The parameters of a constructor, found between the commas outside angle brackets. -/
theorem readParameters {fields : List Field} (h : ∀ f ∈ fields, IsTyped f) :
    (items (commaSeparated (fields.map parameter)).toList).mapM readTyped =
      some (fields.map fun f => (f.beanType, f.name)) := by
  have hitems : ∀ t ∈ fields.map parameter, t ≠ "" ∧ wellBracketed 0 t.toList = true := by
    intro t ht
    obtain ⟨f, hf, rfl⟩ := List.mem_map.mp ht
    have hn := (h f hf).name
    constructor
    · intro he
      have := congrArg String.toList he
      simp [parameter] at this
    · have hname : wellBracketed 0 (' ' :: f.name.toList) = true :=
        wellBracketed_of_notMem (by simpa using hn.notMem (c := '<') rfl)
          (by simpa using hn.notMem (c := '>') rfl) (by simpa using hn.notMem (c := ',') rfl)
      rw [toList_parameter]
      exact wellBracketed_append (h f hf).bracketed_beanType hname
  rw [items_commaSeparated hitems, List.map_map]
  exact mapM_map_eq_some fun f hf => readTyped_parameter (h f hf).name

theorem readConstructor_canonical {fields : List Field} (rest : List (List Char))
    (h : ∀ f ∈ fields, IsTyped f) :
    readConstructor ((commaSeparated (fields.map parameter)).toList ++ ") \x7b".toList)
        (fields.map (fun f => (assignment f).toList) ++ close.toList :: rest) =
      some ⟨fields.map fun f => (f.beanType, f.name), fields.map fun f => (f.name, f.name)⟩ := by
  unfold readConstructor
  rw [dropSuffix?_append]
  simp only [Option.bind_eq_bind]
  rw [readParameters h, readAssignments_assignments rest fun f hf => (h f hf).name]
  rfl

theorem notMem_commaSeparated {texts : List String} {c : Char} (hc : c ∉ ", ".toList)
    (h : ∀ t ∈ texts, c ∉ t.toList) : c ∉ (commaSeparated texts).toList := by
  unfold commaSeparated
  induction texts with
  | nil => simp [joined]
  | cons text texts ih =>
    have ht := h text List.mem_cons_self
    cases texts with
    | nil => exact ht
    | cons next texts =>
      rw [joined, String.toList_append, String.toList_append, List.mem_append, List.mem_append,
        not_or, not_or]
      exact ⟨⟨ht, hc⟩, ih fun t hm => h t (List.mem_cons_of_mem text hm)⟩

theorem oneLine_parameter {f : Field} (ht : '\n' ∉ f.beanType.toList) (hn : IsWord f.name.toList) :
    '\n' ∉ (parameter f).toList := by
  rw [toList_parameter, List.mem_append, List.mem_cons, not_or, not_or]
  exact ⟨ht, by decide, hn.notMem (by decide)⟩

theorem oneLine_assignment {f : Field} (h : IsWord f.name.toList) :
    '\n' ∉ (assignment f).toList := by
  have hn : '\n' ∉ f.name.toList := h.notMem (by decide)
  simp [assignment, Member.inner, hn]

theorem oneLine_constructorLines {fields : List Field} {names : TypeNames}
    (hb : '\n' ∉ names.bean.toList) (hn : ∀ f ∈ fields, IsWord f.name.toList)
    (ht : ∀ f ∈ fields, '\n' ∉ f.beanType.toList) :
    ∀ l ∈ constructorLines fields names, '\n' ∉ l.toList := by
  have hnull : ∀ l ∈ nullConstructorLines names, '\n' ∉ l.toList := by
    intro l hl
    simp only [nullConstructorLines, List.mem_cons, List.not_mem_nil, or_false] at hl
    rcases hl with rfl | rfl
    · decide
    · simp [outer, hb]
  have hcanonical : ∀ l ∈ canonicalConstructorLines fields names, '\n' ∉ l.toList := by
    intro l hl
    have hparams : '\n' ∉ (commaSeparated (fields.map parameter)).toList := by
      apply notMem_commaSeparated (by decide)
      rw [List.forall_mem_map]
      exact fun f hf => oneLine_parameter (ht f hf) (hn f hf)
    simp only [canonicalConstructorLines, List.mem_append, List.mem_cons, List.not_mem_nil,
      or_false, List.mem_map] at hl
    rcases hl with ((rfl | rfl) | ⟨f, hf, rfl⟩) | rfl
    · decide
    · simp [outer, hb, hparams]
    · exact oneLine_assignment (hn f hf)
    · decide
  intro l hl
  unfold constructorLines at hl
  split at hl
  · exact hnull l hl
  · rcases List.mem_append.mp hl with hl | hl
    · exact hnull l hl
    · rcases List.mem_cons.mp hl with rfl | hl
      · decide
      · exact hcanonical l hl

/-- The constructors that were written are the constructors that are read. -/
theorem readConstructors_constructors {fields : List Field} (names : TypeNames)
    (hb : '\n' ∉ names.bean.toList) (h : ∀ f ∈ fields, IsTyped f) :
    readConstructors names.bean (lines (constructors fields names)) =
      some (constructorsOf fields) := by
  have hnull : (outer ("public " ++ names.bean ++ "() \x7b\x7d")).toList =
      ("  public " ++ names.bean ++ "(").toList ++ ") \x7b\x7d".toList := by
    simp [outer]
  have hone : ∀ rest, readConstructor ") \x7b\x7d".toList rest = some ⟨[], []⟩ := by
    intro rest
    rfl
  unfold constructors
  rw [lines_unlines (oneLine_constructorLines hb (fun f hf => (h f hf).name)
    fun f hf => (h f hf).oneLine_beanType)]
  unfold constructorLines constructorsOf
  cases hf : fields.isEmpty with
  | true =>
    simp only [if_true, nullConstructorLines, List.map_cons, List.map_nil, List.cons_append,
      List.nil_append]
    rw [readConstructors_skip _ (by decide), hnull, readConstructors_cons, hone,
      readConstructors_skipAll (by simp)]
    rfl
  | false =>
    have hcanonical : (outer ("public " ++ names.bean ++ "("
        ++ commaSeparated (fields.map parameter) ++ ") \x7b")).toList =
        ("  public " ++ names.bean ++ "(").toList
          ++ ((commaSeparated (fields.map parameter)).toList ++ ") \x7b".toList) := by
      simp [outer]
    have htail : ∀ l ∈ fields.map (fun f => (assignment f).toList) ++ close.toList :: [[]],
        l[2]? ≠ some 'p' := by
      intro l hl
      rcases List.mem_append.mp hl with hl | hl
      · obtain ⟨f, _, rfl⟩ := List.mem_map.mp hl
        exact assignment_not_declaration f
      · simp only [List.mem_cons, List.not_mem_nil, or_false] at hl
        rcases hl with rfl | rfl <;> decide
    simp only [Bool.false_eq_true, if_false, nullConstructorLines, canonicalConstructorLines,
      List.map_cons, List.map_append, List.map_nil, List.map_map, List.cons_append,
      List.nil_append, List.append_assoc, Function.comp_def]
    rw [readConstructors_skip _ (by decide), hnull, readConstructors_cons, hone,
      readConstructors_skip _ (by decide), readConstructors_skip _ (by decide), hcanonical,
      readConstructors_cons, readConstructor_canonical [[]] h, readConstructors_skipAll htail]
    rfl

/-! ## All getters of a bean -/

theorem readMethod_eq_none {l : List Char} (h : l[3]? ≠ some 'u') : readMethod l = none := by
  have hp : "  public ".toList[3]? = some 'u' := rfl
  unfold readMethod
  rw [dropPrefix?_eq_none 3 hp h]
  rfl

theorem readGetters_skip {l : List Char} (rest : List (List Char)) (h : readMethod l = none) :
    readGetters (l :: rest) = readGetters rest := by
  rw [readGetters, h]

theorem readMethod_typed {name : String} (type : String) (h : ' ' ∉ name.toList) :
    readMethod (outer ("public " ++ type ++ " " ++ name ++ "() \x7b")).toList = some name := by
  have hl : (outer ("public " ++ type ++ " " ++ name ++ "() \x7b")).toList =
      "  public ".toList ++ ((type.toList ++ ' ' :: name.toList) ++ "() \x7b".toList) := by
    simp [outer]
  unfold readMethod
  rw [hl, dropPrefix?_append]
  simp only [Option.bind_eq_bind, Option.bind_some, dropSuffix?_append, readTyped_append type h]

theorem readMethod_getter {f : Field} (h : IsWord f.getter.toList) :
    readMethod (outer ("public " ++ f.beanType ++ " " ++ f.getter ++ "() \x7b")).toList =
      some f.getter := readMethod_typed f.beanType (h.notMem (by decide))

/-- A line whose parentheses end in a word is not taken for a method without parameters. -/
theorem readMethod_of_word {word : String} (opened : String) (h : IsWord word.toList) :
    readMethod (outer ("public " ++ opened ++ word ++ ") \x7b")).toList = none := by
  obtain ⟨init, last, hlast⟩ := List.eq_nil_or_concat word.toList |>.resolve_left h.1
  have hc : last ≠ '(' := by
    rintro rfl
    have := h.of_mem (c := '(') (by simp [hlast])
    cases this
  have hl : (outer ("public " ++ opened ++ word ++ ") \x7b")).toList =
      "  public ".toList ++ (opened.toList ++ init ++ last :: ") \x7b".toList) := by
    simp [outer, hlast]
  have hs : "() \x7b".toList = [] ++ '(' :: ") \x7b".toList := rfl
  unfold readMethod
  rw [hl, dropPrefix?_append, hs]
  simp only [Option.bind_eq_bind, Option.bind_some, dropSuffix?_eq_none _ [] _ hc,
    Option.bind_none]

/-- A setter has a parameter, so it is not taken for a method without one. -/
theorem readMethod_setter {f : Field} {names : TypeNames} (h : IsWord f.name.toList) :
    readMethod (outer ("public " ++ names.bean ++ " " ++ f.setter ++ "(" ++ parameter f
      ++ ") \x7b")).toList = none := by
  have := readMethod_of_word (names.bean ++ " " ++ f.setter ++ "(" ++ f.beanType ++ " ") h
  simpa only [parameter, String.append_assoc] using this

theorem readReturnedField_return (name : String) :
    readReturnedField (Member.inner ("return this." ++ name ++ ";")).toList = some name := by
  have hl : (Member.inner ("return this." ++ name ++ ";")).toList =
      "    return this.".toList ++ (name.toList ++ ";".toList) := by
    simp [Member.inner]
  unfold readReturnedField
  rw [hl, dropPrefix?_append]
  simp only [Option.bind_eq_bind, Option.bind_some, dropSuffix?_append, String.ofList_toList]

/-- The lines of one field hold one getter. -/
theorem readGetters_fieldLines {f : Field} {names : TypeNames} (rest : List (List Char))
    (h : IsWord f.name.toList) (hg : IsWord f.getter.toList) :
    readGetters ((fieldLines names f).map String.toList ++ rest) =
      (f.getter, f.name) :: readGetters rest := by
  have hstorage : readMethod (storage f).toList = none :=
    readMethod_eq_none (by simp [storage, outer])
  have hgets : readMethod (outer ("/** Gets the value of " ++ inlineCode f.name ++ ". */")).toList =
      none := readMethod_eq_none (by simp [outer])
  have hsets : readMethod (outer ("/** Sets the value of " ++ inlineCode f.name ++ ". */")).toList =
      none := readMethod_eq_none (by simp [outer])
  have hreturn : readMethod (Member.inner ("return this." ++ f.name ++ ";")).toList = none :=
    readMethod_eq_none (by simp [Member.inner])
  have hassign : readMethod (assignment f).toList = none :=
    readMethod_eq_none (by simp [assignment, Member.inner])
  have hempty : readMethod "".toList = none := rfl
  have hclose : readMethod close.toList = none := rfl
  have hself : readMethod (Member.inner "return this;").toList = none := rfl
  simp only [fieldLines, getterLines, setterLines, List.map_cons, List.map_nil, List.cons_append,
    List.nil_append]
  rw [readGetters_skip _ hstorage, readGetters_skip _ hempty, readGetters_skip _ hgets,
    readGetters, readMethod_getter hg]
  simp only [List.head?_cons, Option.bind_some, readReturnedField_return]
  rw [readGetters_skip _ hreturn, readGetters_skip _ hclose, readGetters_skip _ hempty,
    readGetters_skip _ hsets, readGetters_skip _ (readMethod_setter h),
    readGetters_skip _ hassign, readGetters_skip _ hself, readGetters_skip _ hclose]

theorem oneLine_fieldLines {f : Field} {names : TypeNames} (hb : '\n' ∉ names.bean.toList)
    (ht : '\n' ∉ f.beanType.toList) (hn : IsWord f.name.toList)
    (hc : ∀ c ∈ f.capName.toList, isWordChar c = true) :
    ∀ l ∈ fieldLines names f, '\n' ∉ l.toList := by
  have hname : '\n' ∉ f.name.toList := hn.notMem (by decide)
  have hcap : '\n' ∉ f.capName.toList := by
    intro hm
    have := hc '\n' hm
    cases this
  intro l hl
  simp only [fieldLines, getterLines, setterLines, List.mem_cons, List.not_mem_nil, or_false,
    List.cons_append, List.nil_append] at hl
  rcases hl with rfl | rfl | rfl | rfl | rfl | rfl | rfl | rfl | rfl | rfl | rfl | rfl <;>
    simp [storage, outer, Member.inner, close, inlineCode, assignment, parameter, Field.getter,
      Field.setter, hb, ht, hname, hcap]

theorem oneLine_accessorLines {fields : List Field} {names : TypeNames}
    (h : ∀ f ∈ fields, ∀ l ∈ fieldLines names f, '\n' ∉ l.toList) :
    ∀ l ∈ accessorLines names fields, '\n' ∉ l.toList := by
  fun_induction accessorLines names fields with
  | case1 => simp
  | case2 f => exact h f List.mem_cons_self
  | case3 f g rest ih =>
    intro l hl
    rcases List.mem_append.mp hl with hl | hl
    · exact h f List.mem_cons_self l hl
    · rcases List.mem_cons.mp hl with rfl | hl
      · decide
      · exact ih (fun k hk => h k (List.mem_cons_of_mem f hk)) l hl

theorem readGetters_accessorLines {fields : List Field} {names : TypeNames}
    (h : ∀ f ∈ fields, IsWord f.name.toList ∧ IsWord f.getter.toList) :
    readGetters ((accessorLines names fields).map String.toList ++ [[]]) =
      fields.map fun f => (f.getter, f.name) := by
  fun_induction accessorLines names fields with
  | case1 => rfl
  | case2 f =>
    obtain ⟨hn, hg⟩ := h f List.mem_cons_self
    rw [readGetters_fieldLines _ hn hg]
    rfl
  | case3 f g rest ih =>
    obtain ⟨hn, hg⟩ := h f List.mem_cons_self
    have hempty : readMethod "".toList = none := rfl
    rw [List.map_append, List.append_assoc, readGetters_fieldLines _ hn hg, List.map_cons,
      List.cons_append, readGetters_skip _ hempty,
      ih fun k hk => h k (List.mem_cons_of_mem f hk)]
    rfl

/-- Every field has its getter, and no other method is taken for one. -/
theorem readGetters_accessors {fields : List Field} (names : TypeNames)
    (hb : '\n' ∉ names.bean.toList) (hn : ∀ f ∈ fields, IsWord f.name.toList)
    (ht : ∀ f ∈ fields, '\n' ∉ f.beanType.toList) :
    readGetters (lines (accessors fields names)) = fields.map fun f => (f.getter, f.name) := by
  have hcap : ∀ f ∈ fields, ∀ c ∈ f.capName.toList, isWordChar c = true :=
    fun f hf c hc => Name.isWordChar_capitalize (hn f hf) hc
  have hlines : ∀ l ∈ accessorLines names fields, '\n' ∉ l.toList :=
    oneLine_accessorLines fun f hf => oneLine_fieldLines hb (ht f hf) (hn f hf) (hcap f hf)
  unfold accessors
  rw [lines_unlines hlines]
  exact readGetters_accessorLines fun f hf => ⟨hn f hf, isWord_getter (hn f hf)⟩

end RecordBean.Reading
