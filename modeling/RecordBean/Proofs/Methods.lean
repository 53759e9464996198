import RecordBean.Proofs.Recovery

/-! # Reading the methods of a class

The methods that a class declares, read line by line. A method is opened by a line that holds its
access, its type and its name, and at most one parameter behind the name; a constructor has no type,
so no blank stands in front of its parameters, and it is not taken for a method. What a method does
is read up to the line that closes it: assignments to fields, and the return of a field or of the
object itself. -/

namespace RecordBean.Methods
open RecordBean.Text RecordBean.Reading RecordBean.SourceFile RecordBean.Member RecordBean.Recovery

/-! ## Readers -/

/-- How a method is opened. -/
structure Heading where
  name : String
  /-- The name of its parameter, if it has one. -/
  parameter : Option String
deriving DecidableEq, Repr

/-- The heading that stands on a line. -/
def readHeading (line : List Char) : Option Heading :=
  match readMethod line with
  | some name => some ⟨name, none⟩
  | none => do
    let signature ← between "  public " ") \x7b" line
    let (before, list) ← cut '(' signature
    let (_, name) ← readTyped before
    let (_, parameter) ← readTyped list
    some ⟨name, some parameter⟩

/-- The headings of a class, in order. -/
def headings (ls : List (List Char)) : List Heading := ls.filterMap readHeading

inductive Statement where
  /-- Assign a parameter to a field of the object. -/
  | assign (field value : String)
  /-- Return a field of the object. -/
  | give (field : String)
  /-- Return the object itself. -/
  | giveSelf
deriving DecidableEq, Repr

def readStatement (line : List Char) : Option Statement :=
  if line = "    return this;".toList then some .giveSelf
  else
    match readReturnedField line with
    | some field => some (.give field)
    | none => (readAssignment line).map fun (field, value) => .assign field value

/-- The statements up to the line that closes the method. -/
def readStatements : List (List Char) → Option (List Statement)
  | [] => none
  | line :: rest =>
    if line = "  \x7d".toList then some []
    else do
      let statement ← readStatement line
      let statements ← readStatements rest
      some (statement :: statements)

structure Method where
  heading : Heading
  body : List Statement
deriving DecidableEq, Repr

/-- The methods of a class, in order. -/
def readMethods : List (List Char) → Option (List Method)
  | [] => some []
  | line :: rest =>
    match readHeading line with
    | none => readMethods rest
    | some heading => do
      let body ← readStatements rest
      let others ← readMethods rest
      some (⟨heading, body⟩ :: others)

/-! ## Lines that open no method -/

/-- A line that begins otherwise than a method. -/
theorem readHeading_eq_none {l : List Char} (i : Nat) {c : Char}
    (hp : "  public ".toList[i]? = some c) (hl : l[i]? ≠ some c) : readHeading l = none := by
  have hnone : l.dropPrefix? "  public ".toList = none := dropPrefix?_eq_none i hp hl
  unfold readHeading readMethod between
  rw [hnone]
  rfl

theorem readHeading_inner (text : String) : readHeading (Member.inner text).toList = none :=
  readHeading_eq_none 3 (c := 'u') rfl (by simp [Member.inner])

theorem readHeading_outer {text : String} (h : text.toList[1]? ≠ some 'u') :
    readHeading (outer text).toList = none := by
  have hget : (outer text).toList[3]? = text.toList[1]? := by
    unfold outer
    rw [String.toList_append]
    rfl
  exact readHeading_eq_none 3 rfl (hget ▸ h)

theorem readHeading_empty : readHeading "".toList = none := rfl

theorem readHeading_close : readHeading close.toList = none := rfl

theorem readHeading_assignment (f : Field) : readHeading (assignment f).toList = none :=
  readHeading_inner _

theorem readHeading_storage (f : Field) : readHeading (storage f).toList = none :=
  readHeading_outer (by simp)

theorem readHeading_getterComment (f : Field) :
    readHeading (outer ("/** Gets the value of " ++ inlineCode f.name ++ ". */")).toList = none :=
  readHeading_outer (by simp)

theorem readHeading_setterComment (f : Field) :
    readHeading (outer ("/** Sets the value of " ++ inlineCode f.name ++ ". */")).toList = none :=
  readHeading_outer (by simp)

theorem headings_of_none {ls : List String} (h : ∀ l ∈ ls, readHeading l.toList = none) :
    headings (ls.map String.toList) = [] := by
  unfold headings
  rw [List.filterMap_map, List.filterMap_eq_nil_iff]
  exact h

/-! ## Lines that open a method -/

/-- A method without parameters. -/
theorem readHeading_plain {name : String} (type : String) (h : ' ' ∉ name.toList) :
    readHeading (outer ("public " ++ type ++ " " ++ name ++ "() \x7b")).toList =
      some ⟨name, none⟩ := by
  unfold readHeading
  rw [readMethod_typed type h]

/-- A method with a parameter. The type of the parameter can be any text. -/
theorem readHeading_parameter {before name parameter : String} (type : String)
    (hb : '(' ∉ before.toList) (hn : IsWord name.toList) (hp : IsWord parameter.toList) :
    readHeading (outer ("public " ++ before ++ " " ++ name ++ "(" ++ type ++ " " ++ parameter
      ++ ") \x7b")).toList = some ⟨name, some parameter⟩ := by
  have hnone : readMethod (outer ("public " ++ before ++ " " ++ name ++ "(" ++ type ++ " "
      ++ parameter ++ ") \x7b")).toList = none := by
    have := readMethod_of_word (before ++ " " ++ name ++ "(" ++ type ++ " ") hp
    simpa only [String.append_assoc] using this
  have hline : (outer ("public " ++ before ++ " " ++ name ++ "(" ++ type ++ " " ++ parameter
      ++ ") \x7b")).toList = ("  public " ++ (before ++ " " ++ name ++ "(" ++ type ++ " "
        ++ parameter) ++ ") \x7b").toList := by
    simp [outer]
  have hcut : (before ++ " " ++ name ++ "(" ++ type ++ " " ++ parameter).toList =
      (before.toList ++ ' ' :: name.toList) ++ '(' :: (type.toList ++ ' ' :: parameter.toList) := by
    simp
  have hopen : '(' ∉ before.toList ++ ' ' :: name.toList := by
    rw [List.mem_append, List.mem_cons, not_or, not_or]
    exact ⟨hb, by decide, hn.notMem (by decide)⟩
  unfold readHeading
  rw [hnone, hline, between_append]
  simp only [Option.bind_eq_bind, Option.bind_some, hcut, cut_append _ hopen,
    readTyped_append before (hn.notMem (c := ' ') (by decide)),
    readTyped_append type (hp.notMem (c := ' ') (by decide))]

/-- A constructor with parameters, the last of which is a word. -/
theorem readHeading_constructor {className word : String} (opened : String)
    (hb : ' ' ∉ className.toList) (hp : '(' ∉ className.toList) (hw : IsWord word.toList) :
    readHeading (outer ("public " ++ className ++ "(" ++ (opened ++ word) ++ ") \x7b")).toList =
      none := by
  have hnone : readMethod (outer ("public " ++ className ++ "(" ++ (opened ++ word)
      ++ ") \x7b")).toList = none := by
    have := readMethod_of_word (className ++ "(" ++ opened) hw
    simpa only [String.append_assoc] using this
  have hline : (outer ("public " ++ className ++ "(" ++ (opened ++ word) ++ ") \x7b")).toList =
      ("  public " ++ (className ++ "(" ++ (opened ++ word)) ++ ") \x7b").toList := by
    simp [outer]
  have hcut : (className ++ "(" ++ (opened ++ word)).toList =
      className.toList ++ '(' :: (opened ++ word).toList := by
    simp
  have hname : readTyped className.toList = none := by
    unfold readTyped
    rw [Name.splitAtLast_eq_none.mpr hb]
    rfl
  unfold readHeading
  rw [hnone, hline, between_append]
  simp only [Option.bind_eq_bind, Option.bind_some, hcut, cut_append _ hp, hname, Option.bind_none]

theorem readHeading_nullConstructor (className : String) :
    readHeading (outer ("public " ++ className ++ "() \x7b\x7d")).toList = none := by
  have hline : (outer ("public " ++ className ++ "() \x7b\x7d")).toList =
      "  public ".toList ++ ((className.toList ++ "() \x7b".toList) ++ '\x7d' :: []) := by
    simp [outer]
  have hempty : ((className.toList ++ "() \x7b".toList) ++ '\x7d' :: []).dropSuffix?
      "() \x7b".toList = none :=
    dropSuffix?_eq_none _ "() ".toList [] (by decide)
  have hopen : ((className.toList ++ "() \x7b".toList) ++ '\x7d' :: []).dropSuffix?
      ") \x7b".toList = none :=
    dropSuffix?_eq_none _ ") ".toList [] (by decide)
  unfold readHeading readMethod between
  rw [hline, dropPrefix?_append]
  simp only [Option.bind_eq_bind, Option.bind_some, hempty, hopen, Option.bind_none]

/-! ## The accessors of a bean -/

/-- The headings of the accessors: for every field a getter and a setter. -/
def accessorHeadings (fields : List Field) : List Heading :=
  fields.flatMap fun f => [⟨f.getter, none⟩, ⟨f.setter, some f.name⟩]

section
variable {f : Field} {names : TypeNames} (hb : '(' ∉ names.bean.toList) (hn : IsWord f.name.toList)
include hn

theorem readHeading_getter :
    readHeading (outer ("public " ++ f.beanType ++ " " ++ f.getter ++ "() \x7b")).toList =
      some ⟨f.getter, none⟩ :=
  readHeading_plain f.beanType ((isWord_getter hn).notMem (by decide))

include hb

theorem readHeading_setter :
    readHeading (outer ("public " ++ names.bean ++ " " ++ f.setter ++ "(" ++ parameter f
      ++ ") \x7b")).toList = some ⟨f.setter, some f.name⟩ := by
  have := readHeading_parameter f.beanType hb (isWord_setter hn) hn
  simpa only [parameter, String.append_assoc] using this

theorem headings_fieldLines :
    headings ((fieldLines names f).map String.toList) = accessorHeadings [f] := by
  unfold headings fieldLines getterLines setterLines
  simp only [List.map_cons, List.map_nil, List.cons_append, List.nil_append, List.filterMap_cons,
    List.filterMap_nil, readHeading_storage, readHeading_getterComment, readHeading_setterComment,
    readHeading_empty, readHeading_close, readHeading_assignment, readHeading_inner,
    readHeading_getter hn, readHeading_setter hb hn]
  rfl

end

theorem headings_accessorLines {fields : List Field} {names : TypeNames}
    (hb : '(' ∉ names.bean.toList) (hn : ∀ f ∈ fields, IsWord f.name.toList) :
    headings ((accessorLines names fields).map String.toList) = accessorHeadings fields := by
  fun_induction accessorLines names fields with
  | case1 => rfl
  | case2 f => exact headings_fieldLines hb (hn f List.mem_cons_self)
  | case3 f g rest ih =>
    have hfirst := headings_fieldLines hb (hn f List.mem_cons_self)
    have hothers := ih fun k hk => hn k (List.mem_cons_of_mem f hk)
    unfold headings at hfirst hothers ⊢
    rw [List.map_append, List.filterMap_append, hfirst, List.map_cons,
      List.filterMap_cons_none readHeading_empty, hothers]
    rfl

end RecordBean.Methods
