import RecordBean.Proofs.Recovery

/-! # The lists of fields in a bean

Four members of a bean list its fields, some more than once: the parameters and assignments of the
canonical constructor, the declared storage, the getters and setters, and the arguments of the two
conversions. All these lists are read back here, and each is the list of the fields. Only the texts
of the fields have to be readable. The names of the types can be any texts, even of several lines,
so a member is read from its front: a name is taken as it is known, and lines are counted only where
it cannot stand. -/

namespace RecordBean.Enumeration
open RecordBean.Text RecordBean.Reading RecordBean.SourceFile RecordBean.Member RecordBean.Recovery

/-! ## Readers -/

/-- The first lines of a text, and what follows them. -/
def takeLines : Nat → List Char → Option (List (List Char) × List Char)
  | 0, cs => some ([], cs)
  | n + 1, cs => do
    let (line, rest) ← cut '\n' cs
    let (others, rest) ← takeLines n rest
    some (line :: others, rest)

/-- A line that holds one comment and nothing else. -/
def isComment (line : List Char) : Bool := (between "  /** " " */" line).any (!·.contains '/')

/-- What follows a comment on a line of its own. -/
def belowComment (cs : List Char) : Option (List Char) := do
  let (line, rest) ← cut '\n' cs
  if isComment line then some rest else none

/-- The constructor with parameters, below an empty line and a comment. The text ends with it. -/
def readCanonical (bean : String) (cs : List Char) : Option Constructor := do
  let cs ← cs.dropPrefix? "\n".toList
  let cs ← belowComment cs
  let cs ← cs.dropPrefix? ("  public " ++ bean ++ "(").toList
  let (list, cs) ← cut '\n' cs
  let list ← list.dropSuffix? ") \x7b".toList
  let parameters ← (items list).mapM readTyped
  let body ← cs.dropSuffix? "  \x7d\n".toList
  let assignments ← (Path.splitChars '\n' body).dropLast.mapM readAssignment
  some ⟨parameters, assignments⟩

/-- The constructors of a bean: below a comment the one without parameters, and behind it at most
one other. -/
def readAllConstructors (bean text : String) : Option (List Constructor) := do
  let cs ← belowComment text.toList
  let cs ← cs.dropPrefix? ("  public " ++ bean ++ "() \x7b\x7d\n").toList
  if cs.isEmpty then some [⟨[], []⟩] else (readCanonical bean cs).map ([⟨[], []⟩, ·])

structure Getter where
  type : String
  method : String
  /-- The field that is returned. -/
  field : String
deriving DecidableEq, Repr

structure Setter where
  method : String
  /-- Types and names of the parameters. -/
  parameters : List (String × String)
  /-- A field, and what is assigned to it. -/
  assigned : String × String
deriving DecidableEq, Repr

/-- What the accessors hold for one field: the declared type and name, and two methods. -/
structure Block where
  stored : String × String
  getter : Getter
  setter : Setter
deriving DecidableEq, Repr

def readStorage (line : List Char) : Option (String × String) :=
  (between "  private " ";" line).bind readTyped

def readGetter (signature body : List Char) : Option Getter := do
  let signature ← between "  public " "() \x7b" signature
  let (type, method) ← readTyped signature
  let field ← readReturnedField body
  some ⟨type, method, field⟩

/-- A setter, whose signature is given from the name on. -/
def readSetter (signature body : List Char) : Option Setter := do
  let signature ← signature.dropSuffix? ") \x7b".toList
  let (method, list) ← cut '(' signature
  let parameters ← (items list).mapM readTyped
  let assigned ← readAssignment body
  some ⟨String.ofList method, parameters, assigned⟩

/-- The block of one field, and what follows it. -/
def readBlock (bean : String) (cs : List Char) : Option (Block × List Char) := do
  let (above, cs) ← takeLines 8 cs
  let cs ← cs.dropPrefix? ("  public " ++ bean ++ " ").toList
  let (below, cs) ← takeLines 4 cs
  match above, below with
  | [stored, blank, comment, getter, returned, closed, blank', comment'],
      [setter, assigned, self, closed'] =>
    if blank = [] ∧ isComment comment ∧ closed = "  \x7d".toList ∧ blank' = [] ∧
        isComment comment' ∧ self = "    return this;".toList ∧ closed' = "  \x7d".toList then do
      let stored ← readStorage stored
      let getter ← readGetter getter returned
      let setter ← readSetter setter assigned
      some (⟨stored, getter, setter⟩, cs)
    else none
  | _, _ => none

/-- Blocks with an empty line between neighbours. A block always takes up some text, so the lengths
are only compared to see that the reading ends. -/
def readBlocks (bean : String) (cs : List Char) : Option (List Block) :=
  match readBlock bean cs with
  | some (block, []) => some [block]
  | some (block, '\n' :: rest) =>
    if rest.length < cs.length then (readBlocks bean rest).map (block :: ·) else none
  | _ => none
termination_by cs.length

def readAccessors (bean text : String) : Option (List Block) :=
  if text.isEmpty then some [] else readBlocks bean text.toList

/-! ## Lines, read back -/

theorem takeLines_unlines {ls : List String} (rest : List Char) (h : ∀ l ∈ ls, '\n' ∉ l.toList) :
    takeLines ls.length ((unlines ls).toList ++ rest) = some (ls.map String.toList, rest) := by
  induction ls with
  | nil => rfl
  | cons l ls ih =>
    have hline : (unlines (l :: ls)).toList ++ rest =
        l.toList ++ '\n' :: ((unlines ls).toList ++ rest) := by
      simp [unlines]
    rw [List.length_cons, takeLines, hline, cut_append _ (h l List.mem_cons_self)]
    simp only [Option.bind_eq_bind, Option.bind_some, ih fun m hm => h m (List.mem_cons_of_mem l hm),
      List.map_cons]

/-- A comment on a line of its own. -/
def commentLine (text : String) : String := outer ("/** " ++ text ++ " */")

theorem isComment_commentLine {text : String} (h : '/' ∉ text.toList) :
    isComment (commentLine text).toList = true := by
  have hline : (commentLine text).toList = ("  /** " ++ text ++ " */").toList := by
    simp [commentLine, outer]
  unfold isComment
  rw [hline, between_append]
  simpa using h

theorem belowComment_commentLine {text : String} (rest : List Char) (hf : '\n' ∉ text.toList)
    (hs : '/' ∉ text.toList) :
    belowComment ((commentLine text).toList ++ '\n' :: rest) = some rest := by
  have hline : '\n' ∉ (commentLine text).toList := by
    simp [commentLine, outer, hf]
  unfold belowComment
  rw [cut_append _ hline]
  simp only [Option.bind_eq_bind, Option.bind_some, isComment_commentLine hs, if_true]

/-! ## Constructors, read back -/

theorem readAssignments_unlines {fields : List Field} (h : ∀ f ∈ fields, IsWord f.name.toList) :
    (Path.splitChars '\n' (unlines (fields.map assignment)).toList).dropLast.mapM readAssignment =
      some (fields.map fun f => (f.name, f.name)) := by
  have hlines : lines (unlines (fields.map assignment)) =
      (fields.map assignment).map String.toList ++ [[]] := by
    apply lines_unlines
    rw [List.forall_mem_map]
    exact fun f hf => oneLine_assignment (h f hf)
  unfold lines at hlines
  rw [hlines, List.dropLast_concat, List.map_map]
  exact mapM_map_eq_some fun f hf => readAssignment_assignment (h f hf)

theorem readCanonical_unlines {fields : List Field} (names : TypeNames)
    (h : ∀ f ∈ fields, IsTyped f) :
    readCanonical names.bean (unlines ("" :: canonicalConstructorLines fields names)).toList =
      some ⟨fields.map fun f => (f.beanType, f.name), fields.map fun f => (f.name, f.name)⟩ := by
  have hline : '\n' ∉ (commaSeparated (fields.map parameter)).toList ++ ") \x7b".toList := by
    rw [List.mem_append, not_or]
    refine ⟨notMem_commaSeparated (by decide) ?_, by decide⟩
    rw [List.forall_mem_map]
    exact fun f hf => oneLine_parameter (h f hf).oneLine_beanType (h f hf).name
  have htext : (unlines ("" :: canonicalConstructorLines fields names)).toList =
      "\n".toList ++ ((commentLine "Creates a bean from field values in declaration order.").toList
        ++ '\n' :: (("  public " ++ names.bean ++ "(").toList
          ++ (((commaSeparated (fields.map parameter)).toList ++ ") \x7b".toList) ++ '\n' ::
            ((unlines (fields.map assignment)).toList ++ "  \x7d\n".toList)))) := by
    simp [canonicalConstructorLines, unlines, outer, close, commentLine]
  unfold readCanonical
  rw [htext, dropPrefix?_append]
  simp only [Option.bind_eq_bind, Option.bind_some]
  rw [belowComment_commentLine _ (by simp) (by simp)]
  simp only [Option.bind_some, dropPrefix?_append, cut_append _ hline, dropSuffix?_append,
    readParameters h, readAssignments_unlines fun f hf => (h f hf).name]

/-- The constructors that were written are the constructors that are read. -/
theorem readAllConstructors_constructors {fields : List Field} (names : TypeNames)
    (h : ∀ f ∈ fields, IsTyped f) :
    readAllConstructors names.bean (constructors fields names) = some (constructorsOf fields) := by
  have htext (others : List String) : (unlines (nullConstructorLines names ++ others)).toList =
      (commentLine "Creates a bean with every field at its type default.").toList ++ '\n' ::
        (("  public " ++ names.bean ++ "() \x7b\x7d\n").toList ++ (unlines others).toList) := by
    simp [nullConstructorLines, unlines, outer, commentLine]
  unfold readAllConstructors constructors constructorLines constructorsOf
  cases fields with
  | nil =>
    rw [List.isEmpty_nil, if_pos rfl, if_pos rfl, ← List.append_nil (nullConstructorLines names),
      htext, belowComment_commentLine _ (by simp) (by simp)]
    simp only [Option.bind_eq_bind, Option.bind_some, dropPrefix?_append]
    rfl
  | cons f rest =>
    have hne : (unlines ("" :: canonicalConstructorLines (f :: rest) names)).toList.isEmpty =
        false := by
      simp [unlines]
    rw [List.isEmpty_cons, if_neg Bool.false_ne_true, if_neg Bool.false_ne_true, htext,
      belowComment_commentLine _ (by simp) (by simp)]
    simp only [Option.bind_eq_bind, Option.bind_some, dropPrefix?_append, hne, Bool.false_eq_true,
      if_false, readCanonical_unlines names h, Option.map_some]

/-! ## Accessors, read back -/

/-- The block of a field. -/
def blockOf (f : Field) : Block where
  stored := (f.beanType, f.name)
  getter := ⟨f.beanType, f.getter, f.name⟩
  setter := ⟨f.setter, [(f.beanType, f.name)], (f.name, f.name)⟩

theorem readStorage_storage {f : Field} (h : IsWord f.name.toList) :
    readStorage (storage f).toList = some (f.beanType, f.name) := by
  have hline : storage f = "  private " ++ parameter f ++ ";" := by
    apply String.toList_injective
    simp [storage, outer, parameter]
  unfold readStorage
  rw [hline, between_append, Option.bind_some, readTyped_parameter h]

theorem readGetter_lines {f : Field} (h : IsWord f.name.toList) :
    readGetter (outer ("public " ++ f.beanType ++ " " ++ f.getter ++ "() \x7b")).toList
        (Member.inner ("return this." ++ f.name ++ ";")).toList =
      some ⟨f.beanType, f.getter, f.name⟩ := by
  have hline : outer ("public " ++ f.beanType ++ " " ++ f.getter ++ "() \x7b") =
      "  public " ++ (f.beanType ++ " " ++ f.getter) ++ "() \x7b" := by
    apply String.toList_injective
    simp [outer]
  have htyped : (f.beanType ++ " " ++ f.getter).toList =
      f.beanType.toList ++ ' ' :: f.getter.toList := by
    simp
  unfold readGetter
  rw [hline, between_append, htyped]
  simp only [Option.bind_eq_bind, Option.bind_some,
    readTyped_append f.beanType ((isWord_getter h).notMem (c := ' ') (by decide)),
    readReturnedField_return]

theorem readSetter_lines {f : Field} (h : IsTyped f) :
    readSetter (f.setter ++ "(" ++ parameter f ++ ") \x7b").toList (assignment f).toList =
      some ⟨f.setter, [(f.beanType, f.name)], (f.name, f.name)⟩ := by
  have hline : (f.setter ++ "(" ++ parameter f ++ ") \x7b").toList =
      (f.setter.toList ++ '(' :: (commaSeparated [parameter f]).toList) ++ ") \x7b".toList := by
    simp [commaSeparated, joined]
  have hopen : '(' ∉ f.setter.toList := (isWord_setter h.name).notMem (by decide)
  have hone : ∀ g ∈ [f], IsTyped g := by simpa using h
  have hparameters := readParameters hone
  simp only [List.map_cons, List.map_nil] at hparameters
  unfold readSetter
  rw [hline, dropSuffix?_append]
  simp only [Option.bind_eq_bind, Option.bind_some, cut_append _ hopen, hparameters,
    readAssignment_assignment h.name, String.ofList_toList]

/-- The comment of an accessor. -/
def accessorComment (verb : String) (f : Field) : String :=
  commentLine (verb ++ " the value of " ++ inlineCode f.name ++ ".")

/-- The lines of a field above the signature of its setter. -/
def linesAbove (f : Field) : List String := [
  storage f, "", accessorComment "Gets" f,
  outer ("public " ++ f.beanType ++ " " ++ f.getter ++ "() \x7b"),
  Member.inner ("return this." ++ f.name ++ ";"), close, "", accessorComment "Sets" f]

/-- The lines of a field from the name of its setter on. -/
def linesBelow (f : Field) : List String :=
  [f.setter ++ "(" ++ parameter f ++ ") \x7b", assignment f, Member.inner "return this;", close]

/-- The name of the bean stands between the two. -/
theorem unlines_fieldLines (names : TypeNames) (f : Field) :
    unlines (fieldLines names f) =
      unlines (linesAbove f) ++ (("  public " ++ names.bean ++ " ") ++ unlines (linesBelow f)) := by
  apply String.toList_injective
  simp [fieldLines, linesAbove, linesBelow, getterLines, setterLines, unlines, outer,
    accessorComment, commentLine]

theorem oneLine_linesAbove {f : Field} (h : IsTyped f) : ∀ l ∈ linesAbove f, '\n' ∉ l.toList := by
  have hname : '\n' ∉ f.name.toList := h.name.notMem (by decide)
  have hgetter : '\n' ∉ f.getter.toList := (isWord_getter h.name).notMem (by decide)
  simp [linesAbove, storage, outer, Member.inner, close, accessorComment, commentLine, inlineCode,
    hname, hgetter, h.oneLine_beanType]

theorem oneLine_linesBelow {f : Field} (h : IsTyped f) : ∀ l ∈ linesBelow f, '\n' ∉ l.toList := by
  have hsetter : '\n' ∉ f.setter.toList := (isWord_setter h.name).notMem (by decide)
  have hparameter := oneLine_parameter h.oneLine_beanType h.name
  have hassignment := oneLine_assignment h.name
  simp [linesBelow, outer, Member.inner, close, hsetter, hparameter, hassignment]

theorem isComment_accessorComment (verb : String) {f : Field} (hv : '/' ∉ verb.toList)
    (h : IsWord f.name.toList) : isComment (accessorComment verb f).toList = true := by
  have hname : '/' ∉ f.name.toList := h.notMem (by decide)
  apply isComment_commentLine
  simp [inlineCode, hv, hname]

/-- The block that was written is the block that is read. -/
theorem readBlock_fieldLines {f : Field} (names : TypeNames) (rest : List Char) (h : IsTyped f) :
    readBlock names.bean ((unlines (fieldLines names f)).toList ++ rest) =
      some (blockOf f, rest) := by
  have habove := takeLines_unlines (("  public " ++ names.bean ++ " ").toList
    ++ ((unlines (linesBelow f)).toList ++ rest)) (oneLine_linesAbove h)
  have hbelow := takeLines_unlines rest (oneLine_linesBelow h)
  have height : (linesAbove f).length = 8 := rfl
  have hfour : (linesBelow f).length = 4 := rfl
  have hgets := isComment_accessorComment "Gets" (by decide) h.name
  have hsets := isComment_accessorComment "Sets" (by decide) h.name
  have hclose : close.toList = "  \x7d".toList := rfl
  have hself : (Member.inner "return this;").toList = "    return this;".toList := rfl
  rw [height] at habove
  rw [hfour] at hbelow
  -- the name of the bean parts the lines, so each run of them is taken by itself
  unfold readBlock
  rw [unlines_fieldLines, String.toList_append, String.toList_append, List.append_assoc,
    List.append_assoc, habove]
  simp only [Option.bind_eq_bind, Option.bind_some, dropPrefix?_append, hbelow]
  simp only [linesAbove, linesBelow, List.map_cons, List.map_nil, hgets, hsets, hclose, hself,
    String.toList_empty, and_self, if_true, readStorage_storage h.name, readGetter_lines h.name,
    readSetter_lines h, Option.bind_some]
  rfl

/-- The blocks that were written are the blocks that are read. -/
theorem readBlocks_accessorLines {fields : List Field} (names : TypeNames) (hne : fields ≠ [])
    (h : ∀ f ∈ fields, IsTyped f) :
    readBlocks names.bean (unlines (accessorLines names fields)).toList =
      some (fields.map blockOf) := by
  fun_induction accessorLines names fields with
  | case1 => exact absurd rfl hne
  | case2 f =>
    have hblock := readBlock_fieldLines names [] (h f List.mem_cons_self)
    rw [List.append_nil] at hblock
    rw [readBlocks, hblock]
    rfl
  | case3 f g rest ih =>
    rw [List.forall_mem_cons] at h
    have htext : (unlines (fieldLines names f ++ "" :: accessorLines names (g :: rest))).toList =
        (unlines (fieldLines names f)).toList
          ++ '\n' :: (unlines (accessorLines names (g :: rest))).toList := by
      simp [unlines]
    have hblock := readBlock_fieldLines names
      ('\n' :: (unlines (accessorLines names (g :: rest))).toList) h.1
    have hothers := ih (List.cons_ne_nil g rest) h.2
    have hshorter : (unlines (accessorLines names (g :: rest))).toList.length <
        ((unlines (fieldLines names f)).toList
          ++ '\n' :: (unlines (accessorLines names (g :: rest))).toList).length := by
      rw [List.length_append, List.length_cons]
      omega
    rw [readBlocks, htext]
    simp only [hblock, hshorter, if_true, hothers, Option.map_some, List.map_cons]

theorem readAccessors_accessors {fields : List Field} (names : TypeNames)
    (h : ∀ f ∈ fields, IsTyped f) :
    readAccessors names.bean (accessors fields names) = some (fields.map blockOf) := by
  unfold readAccessors accessors
  rw [isEmpty_unlines]
  cases fields with
  | nil => rfl
  | cons f rest =>
    have hne : (accessorLines names (f :: rest)).isEmpty = false := by
      cases rest <;> rfl
    rw [hne, if_neg Bool.false_ne_true, readBlocks_accessorLines names (List.cons_ne_nil f rest) h]

/-! ## The lists of a bean -/

/-- What is read from the four members that list fields. -/
structure Lists where
  constructors : List Constructor
  blocks : List Block
  /-- The arguments with which a bean is built from a record. -/
  inward : List Expr
  /-- The arguments with which a record is built from a bean. -/
  outward : List Expr
deriving DecidableEq, Repr

/-- Read the constructors, the accessors and the two conversions of a bean. -/
def readLists (names : TypeNames) (constructors accessors fromRecord toRecord : String) :
    Option Lists := do
  let constructors ← readAllConstructors names.bean constructors
  let blocks ← readAccessors names.bean accessors
  let inward ← readFromRecord names fromRecord
  let outward ← readToRecord names toRecord
  some ⟨constructors, blocks, inward, outward⟩

/-- The constructors with parameters. -/
def Lists.canonical (l : Lists) : List Constructor := l.constructors.filter (!·.parameters.isEmpty)

/-- The constructors without parameters. -/
def Lists.nullary (l : Lists) : List Constructor := l.constructors.filter (·.parameters.isEmpty)

/-- The name through which an argument gets at its field. -/
def subject : Expr → String
  | .component name => name
  | .getter method => method
  | .fromRecord _ value => subject value
  | .toRecord value => subject value
  | .unlessNull tested _ => subject tested

/-- Whether an argument is converted by the bean that it is the record of, or that it is. -/
def delegates : Expr → Bool
  | .unlessNull _ (.fromRecord _ _) => true
  | .unlessNull _ (.toRecord _) => true
  | _ => false

/-- A list with one entry for every field, in order, and no two entries alike. -/
structure Enumerates {α : Type} (found : List α) (fields : List Field) (entry : Field → α) :
    Prop where
  entries : found = fields.map entry
  distinct : found.Nodup

/-- Lists that each go through the fields. -/
structure Lists.GoThrough (l : Lists) (fields : List Field) : Prop where
  /-- One constructor is without parameters, also if there are no fields. -/
  nullary : l.nullary = [⟨[], []⟩]
  /-- One other has them, unless there are no fields. -/
  canonical : l.canonical.length = if fields = [] then 0 else 1
  parameters : ∀ c ∈ l.canonical, Enumerates c.parameters fields fun f => (f.beanType, f.name)
  assignments : ∀ c ∈ l.canonical, Enumerates c.assignments fields fun f => (f.name, f.name)
  stored : Enumerates (l.blocks.map (·.stored)) fields fun f => (f.beanType, f.name)
  getters : Enumerates (l.blocks.map (·.getter)) fields fun f => ⟨f.beanType, f.getter, f.name⟩
  setters : Enumerates (l.blocks.map (·.setter)) fields fun f =>
    ⟨f.setter, [(f.beanType, f.name)], (f.name, f.name)⟩
  inward : Enumerates l.inward fields Expr.ofRecord
  outward : Enumerates l.outward fields Expr.ofBean
  /-- An argument is delegated exactly if its field is nested. -/
  delegated : l.inward.map delegates = fields.map (·.isNested) ∧
    l.outward.map delegates = fields.map (·.isNested)

/-- Fields whose texts can be told apart in a list: their names are identifiers with distinct
accessors, a type stands on one line, with commas only inside its balanced angle brackets, and the
type of a nested field is a name. -/
structure AreReadable (fields : List Field) : Prop where
  named : AreNamed fields
  oneLine : ∀ f ∈ fields, '\n' ∉ f.declaredType.toList
  bracketed : ∀ f ∈ fields, wellBracketed 0 f.declaredType.toList = true
  nested : ∀ f ∈ fields, f.isNested = true → IsTypeName f.declaredType

/-- Entries are distinct if some part of them is a name that fields do not share. -/
theorem Enumerates.of_key {α : Type} {fields : List Field} {entry : Field → α}
    {key : Field → String} (part : α → String) (hd : (fields.map key).Nodup)
    (hp : ∀ f, part (entry f) = key f) : Enumerates (fields.map entry) fields entry := by
  refine ⟨rfl, List.Nodup.of_map part ?_⟩
  have hkeys : (fields.map entry).map part = fields.map key := by
    rw [List.map_map]
    exact List.map_congr_left fun f _ => hp f
  rw [hkeys]
  exact hd

theorem subject_ofRecord (f : Field) : subject (Expr.ofRecord f) = f.name := by
  unfold Expr.ofRecord
  cases f.isNested <;> rfl

theorem subject_ofBean (f : Field) : subject (Expr.ofBean f) = f.getter := by
  unfold Expr.ofBean
  cases f.isNested <;> rfl

theorem delegates_ofRecord (f : Field) : delegates (Expr.ofRecord f) = f.isNested := by
  unfold Expr.ofRecord
  cases f.isNested <;> rfl

theorem delegates_ofBean (f : Field) : delegates (Expr.ofBean f) = f.isNested := by
  unfold Expr.ofBean
  cases f.isNested <;> rfl

/-- What the members of a bean are read as. -/
def listsOf (fields : List Field) : Lists :=
  ⟨constructorsOf fields, fields.map blockOf, fields.map Expr.ofRecord, fields.map Expr.ofBean⟩

theorem nullary_listsOf (fields : List Field) : (listsOf fields).nullary = [⟨[], []⟩] := by
  unfold Lists.nullary listsOf constructorsOf
  cases fields <;> simp

theorem canonical_listsOf (fields : List Field) :
    (listsOf fields).canonical = if fields = [] then [] else
      [⟨fields.map fun f => (f.beanType, f.name), fields.map fun f => (f.name, f.name)⟩] := by
  unfold Lists.canonical listsOf constructorsOf
  cases fields <;> simp

theorem mem_canonical_listsOf {fields : List Field} {c : Constructor}
    (hc : c ∈ (listsOf fields).canonical) :
    c = ⟨fields.map fun f => (f.beanType, f.name), fields.map fun f => (f.name, f.name)⟩ := by
  rw [canonical_listsOf] at hc
  split at hc
  · cases hc
  · exact List.mem_singleton.mp hc

section
variable {fields : List Field} (h : AreReadable fields)
include h

theorem AreReadable.isTyped : ∀ f ∈ fields, IsTyped f := fun f hf =>
  ⟨Name.isWord_of_isIdentifier (h.named.identifiers f hf), h.oneLine f hf, h.bracketed f hf⟩

theorem AreReadable.isLegible : ∀ f ∈ fields, IsLegible f := fun f hf =>
  ⟨Name.isWord_of_isIdentifier (h.named.identifiers f hf), h.nested f hf⟩

theorem readLists_members (names : TypeNames) :
    readLists names (constructors fields names) (accessors fields names) (fromRecord fields names)
      (toRecord fields names) = some (listsOf fields) := by
  unfold readLists
  rw [readAllConstructors_constructors names h.isTyped, readAccessors_accessors names h.isTyped,
    readFromRecord_fromRecord names h.isLegible, readToRecord_toRecord names h.isLegible]
  rfl

theorem goThrough_listsOf : (listsOf fields).GoThrough fields := by
  have hnames : (fields.map (·.name)).Nodup := h.named.nodup_names
  have hgetters : (fields.map (·.getter)).Nodup := h.named.nodup_getters
  have hblocks {α : Type} (part : Block → α) :
      (listsOf fields).blocks.map part = fields.map fun f => part (blockOf f) := List.map_map
  -- every entry holds the name of its field, but what goes into a record only that of the getter
  constructor
  · exact nullary_listsOf fields
  · rw [canonical_listsOf]
    split <;> rfl
  · intro c hc
    rw [mem_canonical_listsOf hc]
    exact .of_key Prod.snd hnames fun _ => rfl
  · intro c hc
    rw [mem_canonical_listsOf hc]
    exact .of_key Prod.snd hnames fun _ => rfl
  · rw [hblocks]
    exact .of_key Prod.snd hnames fun _ => rfl
  · rw [hblocks]
    exact .of_key Getter.field hnames fun _ => rfl
  · rw [hblocks]
    exact .of_key (fun setter => setter.assigned.1) hnames fun _ => rfl
  · exact .of_key subject hnames subject_ofRecord
  · exact .of_key subject hgetters subject_ofBean
  · constructor
    · exact List.map_map.trans (List.map_congr_left fun f _ => delegates_ofRecord f)
    · exact List.map_map.trans (List.map_congr_left fun f _ => delegates_ofBean f)

/-- Whatever the names of the types are, the members of a bean list its fields completely and in
order, wherever they list them: as parameters, assignments, storage, getters, setters and as
arguments of both conversions. Only a bean without fields has no constructor but the one without
parameters, and never has it two of that kind. -/
theorem lists_go_through_fields (names : TypeNames) :
    ∃ l, readLists names (constructors fields names) (accessors fields names)
        (fromRecord fields names) (toRecord fields names) = some l ∧ l.GoThrough fields :=
  ⟨listsOf fields, readLists_members h names, goThrough_listsOf h⟩

end

/-- The lists of a coffee bean, whose second field has a type with a comma and a blank. -/
theorem coffee_lists_go_through_fields :
    AreReadable coffee.fields ∧
      ∃ l, readLists (TypeNames.of coffee) (Members.of coffee).constructors
          (Members.of coffee).accessors (Members.of coffee).fromRecord
          (Members.of coffee).toRecord = some l ∧
        (∃ c ∈ l.canonical,
          c.parameters = [("TasteBean", "taste"), ("Map<String, Integer>", "prices")]) ∧
        l.inward.map delegates = [true, false] ∧ l.outward.map delegates = [true, false] := by
  have h : AreReadable coffee.fields := by
    obtain ⟨text, htext⟩ := exists_renderOwn_coffee
    exact ⟨(exists_renderOwn_iff.mp ⟨text, htext⟩).2, by decide, by decide, by decide⟩
  obtain ⟨l, hl, hthrough⟩ := lists_go_through_fields h (TypeNames.of coffee)
  obtain ⟨c, hc⟩ := List.length_eq_one_iff.mp hthrough.canonical
  have hmem : c ∈ l.canonical := by simp [hc]
  refine ⟨h, l, hl, ⟨c, hmem, ?_⟩, hthrough.delegated.1, hthrough.delegated.2⟩
  rw [(hthrough.parameters c hmem).entries]
  decide

end RecordBean.Enumeration
