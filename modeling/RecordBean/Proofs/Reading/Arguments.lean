import RecordBean.Members
import RecordBean.Proofs.Reading

/-! # Reading arguments

The two conversions of a bean each return a new object with one argument for every field. Here the
arguments are read back as expressions: a component of the record, a getter of the bean, or, for a
nested field, a conversion that is only tried on what is not null. Reading a printed conversion
gives one expression for every field, in order, whatever the names of the types are; only the type
of a nested field has to be a name. -/

namespace RecordBean.Reading
open RecordBean.Text RecordBean.Member

/-- An expression that stands as an argument. -/
inductive Expr where
  | component (name : String)
  | getter (method : String)
  /-- The bean of a record, from the static method of the bean type. -/
  | fromRecord (type : String) (value : Expr)
  | toRecord (value : Expr)
  /-- Null if the first expression is, else the second one. -/
  | unlessNull (tested result : Expr)
deriving DecidableEq, Repr

/-! ## Expressions -/

/-- A call without arguments on the record or on the bean itself. -/
def readCall (cs : List Char) : Option Expr := do
  let call ← cs.dropSuffix? "()".toList
  match call.dropPrefix? "record.".toList with
  | some name => if IsWord name then some (.component (String.ofList name)) else none
  | none =>
    let name ← call.dropPrefix? "this.".toList
    if IsWord name then some (.getter (String.ofList name)) else none

/-- The conversion of a nested value, in either direction. -/
def readConversion (cs : List Char) : Option Expr :=
  match cs.dropSuffix? ".toRecord()".toList with
  | some value => (readCall value).map .toRecord
  | none => do
    let (method, rest) ← cut '(' cs
    let type ← method.dropSuffix? ".fromRecord".toList
    let value ← rest.dropSuffix? ")".toList
    (readCall value).map (.fromRecord (String.ofList type))

def readExpr (cs : List Char) : Option Expr :=
  match cut ' ' cs with
  | none => readCall cs
  | some (tested, rest) => do
    let result ← rest.dropPrefix? "== null ? null : ".toList
    let tested ← readCall tested
    (readConversion result).map (.unlessNull tested)

theorem readCall_component {name : String} (h : IsWord name.toList) :
    readCall ("record." ++ name ++ "()").toList = some (.component name) := by
  unfold readCall
  rw [String.toList_append, dropSuffix?_append, String.toList_append]
  simp only [Option.bind_eq_bind, Option.bind_some, dropPrefix?_append, if_pos h,
    String.ofList_toList]

theorem readCall_getter {method : String} (h : IsWord method.toList) :
    readCall ("this." ++ method ++ "()").toList = some (.getter method) := by
  have hr : ("this.".toList ++ method.toList).dropPrefix? "record.".toList = none := rfl
  unfold readCall
  rw [String.toList_append, dropSuffix?_append, String.toList_append]
  simp only [Option.bind_eq_bind, Option.bind_some, hr, dropPrefix?_append, if_pos h,
    String.ofList_toList]

theorem notMem_call {receiver name : String} {c : Char} (hn : IsWord name.toList)
    (hw : isWordChar c = false) (hr : c ∉ receiver.toList) (hp : c ∉ "()".toList) :
    c ∉ (receiver ++ name ++ "()").toList := by
  rw [String.toList_append, String.toList_append, List.mem_append, List.mem_append, not_or, not_or]
  exact ⟨⟨hr, hn.notMem hw⟩, hp⟩

theorem readExpr_of_readCall {cs : List Char} {e : Expr} (hb : ' ' ∉ cs)
    (h : readCall cs = some e) : readExpr cs = some e := by
  unfold readExpr
  rw [cut_eq_none hb]
  exact h

theorem readExpr_unlessNull {tested result : String} {e r : Expr} (hb : ' ' ∉ tested.toList)
    (he : readCall tested.toList = some e) (hr : readConversion result.toList = some r) :
    readExpr (tested ++ " == null ? null : " ++ result).toList = some (.unlessNull e r) := by
  have ht : (tested ++ " == null ? null : " ++ result).toList =
      tested.toList ++ ' ' :: ("== null ? null : ".toList ++ result.toList) := by
    have hs : " == null ? null : ".toList = ' ' :: "== null ? null : ".toList := rfl
    rw [String.toList_append, String.toList_append, hs]
    simp
  unfold readExpr
  rw [ht, cut_append _ hb]
  simp only [Option.bind_eq_bind, dropPrefix?_append, Option.bind_some, he, hr, Option.map_some]

theorem readConversion_fromRecord {type value : String} {e : Expr} (ht : '(' ∉ type.toList)
    (hv : readCall (value ++ "()").toList = some e) :
    readConversion (type ++ ".fromRecord(" ++ (value ++ "()") ++ ")").toList =
      some (.fromRecord type e) := by
  have hend : (type ++ ".fromRecord(" ++ (value ++ "()") ++ ")").toList =
      (type ++ ".fromRecord(" ++ value ++ "(").toList ++ ')' :: [')'] := by
    have h1 : ")".toList = [')'] := rfl
    have h2 : "()".toList = ['(', ')'] := rfl
    have h3 : "(".toList = ['('] := rfl
    simp only [String.toList_append, h1, h2, h3, List.append_assoc]
    rfl
  have hnone : (type ++ ".fromRecord(" ++ (value ++ "()") ++ ")").toList.dropSuffix?
      ".toRecord()".toList = none := by
    rw [hend]
    exact dropSuffix?_eq_none _ ".toRecord".toList [')'] (by decide)
  have hcut : (type ++ ".fromRecord(" ++ (value ++ "()") ++ ")").toList =
      (type.toList ++ ".fromRecord".toList) ++ '(' :: ((value ++ "()").toList ++ ")".toList) := by
    have h1 : ".fromRecord(".toList = ".fromRecord".toList ++ ['('] := rfl
    simp only [String.toList_append, h1, List.append_assoc, List.cons_append, List.nil_append]
  have hopen : '(' ∉ type.toList ++ ".fromRecord".toList := by
    rw [List.mem_append, not_or]
    exact ⟨ht, by decide⟩
  unfold readConversion
  rw [hnone, hcut, cut_append _ hopen]
  simp only [Option.bind_eq_bind, Option.bind_some, dropSuffix?_append, hv, Option.map_some,
    String.ofList_toList]

theorem readConversion_toRecord {value : String} {e : Expr} (hv : readCall value.toList = some e) :
    readConversion (value ++ ".toRecord()").toList = some (.toRecord e) := by
  unfold readConversion
  rw [String.toList_append, dropSuffix?_append]
  simp only [hv, Option.map_some]

/-! ## One argument for each field -/

/-- How a bean takes a field from a record. -/
def Expr.ofRecord (f : Field) : Expr :=
  if f.isNested then
    .unlessNull (.component f.name) (.fromRecord f.beanType (.component f.name))
  else .component f.name

/-- How a record takes a component from a bean. -/
def Expr.ofBean (f : Field) : Expr :=
  if f.isNested then .unlessNull (.getter f.getter) (.toRecord (.getter f.getter))
  else .getter f.getter

/-- What the printed members need of a field to be read back: a name that is a word, and for a
nested field a type that is a name. -/
structure IsLegible (f : Field) : Prop where
  name : IsWord f.name.toList
  nested : f.isNested = true → IsTypeName f.declaredType

theorem isWord_getter {f : Field} (h : IsWord f.name.toList) : IsWord f.getter.toList := by
  have hget : IsWord "get".toList := by decide
  unfold Field.getter
  rw [String.toList_append]
  exact hget.append fun c hc => Name.isWordChar_capitalize h hc

theorem isWord_setter {f : Field} (h : IsWord f.name.toList) : IsWord f.setter.toList := by
  have hset : IsWord "set".toList := by decide
  unfold Field.setter
  rw [String.toList_append]
  exact hset.append fun c hc => Name.isWordChar_capitalize h hc

/-- The bean type of a nested field has no character outside words but the dot. -/
theorem IsLegible.notMem_beanType {f : Field} {c : Char} (h : IsLegible f)
    (hn : f.isNested = true) (hw : isWordChar c = false) (hd : c ≠ '.') :
    c ∉ f.beanType.toList := by
  unfold Field.beanType
  rw [if_pos hn, Name.companion, String.toList_append, List.mem_append, not_or]
  refine ⟨(h.nested hn).notMem hw hd, ?_⟩
  intro hm
  have := Name.isWordChar_beanSuffix hm
  rw [hw] at this
  cases this

theorem readExpr_recordValue {f : Field} (h : IsLegible f) :
    readExpr (recordValue f).toList = some (Expr.ofRecord f) := by
  have hcall := readCall_component h.name
  have hblank : ' ' ∉ ("record." ++ f.name ++ "()").toList :=
    notMem_call h.name (by decide) (by decide) (by decide)
  unfold recordValue Expr.ofRecord
  cases hn : f.isNested with
  | false => exact readExpr_of_readCall hblank hcall
  | true =>
    have hopen := h.notMem_beanType (c := '(') hn (by decide) (by decide)
    have hconv := readConversion_fromRecord hopen hcall
    have := readExpr_unlessNull hblank hcall hconv
    simpa only [String.append_assoc, if_true] using this

theorem readExpr_beanValue {f : Field} (h : IsLegible f) :
    readExpr (beanValue f).toList = some (Expr.ofBean f) := by
  have hcall := readCall_getter (isWord_getter h.name)
  have hblank : ' ' ∉ ("this." ++ f.getter ++ "()").toList :=
    notMem_call (isWord_getter h.name) (by decide) (by decide) (by decide)
  unfold beanValue Expr.ofBean
  cases hn : f.isNested with
  | false => exact readExpr_of_readCall hblank hcall
  | true =>
    have := readExpr_unlessNull hblank hcall (readConversion_toRecord hcall)
    simpa only [String.append_assoc, if_true] using this

/-! ## Argument lists -/

/-- A text in which every bracket has its partner and no comma stands outside angle brackets. -/
structure IsNeutral (text : String) : Prop where
  bracketed : wellBracketed 0 text.toList = true
  closed : IsClosed text.toList

/-- The characters that structure a list of arguments. -/
def isMark (c : Char) : Bool := c == '(' || c == ')' || c == '<' || c == '>' || c == ','

theorem isNeutral_of_unmarked {text : String} (h : text.toList.any isMark = false) :
    IsNeutral text := by
  have hn : ∀ c, isMark c = true → c ∉ text.toList := by
    intro c hc hm
    exact List.any_eq_false.mp h c hm hc
  exact ⟨wellBracketed_of_notMem (hn '<' rfl) (hn '>' rfl) (hn ',' rfl),
    isClosed_of_notMem (hn '(' rfl) (hn ')' rfl)⟩

theorem IsNeutral.append {a b : String} (ha : IsNeutral a) (hb : IsNeutral b) :
    IsNeutral (a ++ b) := by
  constructor
  · rw [String.toList_append]
    exact wellBracketed_append ha.bracketed hb.bracketed
  · rw [String.toList_append]
    exact ha.closed.append hb.closed

theorem IsNeutral.parentheses {a : String} (h : IsNeutral a) : IsNeutral ("(" ++ a ++ ")") := by
  constructor
  · rw [String.toList_append, String.toList_append]
    exact wellBracketed_append (wellBracketed_append (by decide) h.bracketed) (by decide)
  · rw [String.toList_append, String.toList_append]
    exact h.closed.parentheses

theorem isMark_of_isWordChar {c : Char} (h : isWordChar c = true) : isMark c = false := by
  have hw : ∀ d, isWordChar d = false → c ≠ d := fun d hd =>
    ne_of_apply_ne isWordChar (by simp [h, hd])
  simp [isMark, hw '(' rfl, hw ')' rfl, hw '<' rfl, hw '>' rfl, hw ',' rfl]

theorem isNeutral_pair : IsNeutral "()" := by
  have hempty : IsNeutral "" := isNeutral_of_unmarked (by decide)
  exact hempty.parentheses

theorem isNeutral_call {receiver name : String} (hr : receiver.toList.any isMark = false)
    (hn : IsWord name.toList) : IsNeutral (receiver ++ name ++ "()") := by
  have hname : IsNeutral name := by
    apply isNeutral_of_unmarked
    rw [List.any_eq_false]
    intro c hc
    rw [isMark_of_isWordChar (hn.of_mem hc)]
    exact Bool.false_ne_true
  exact ((isNeutral_of_unmarked hr).append hname).append isNeutral_pair

theorem isNeutral_recordValue {f : Field} (h : IsLegible f) : IsNeutral (recordValue f) := by
  have hcall : IsNeutral ("record." ++ f.name ++ "()") := isNeutral_call (by decide) h.name
  unfold recordValue
  cases hn : f.isNested with
  | false => exact hcall
  | true =>
    have htype : IsNeutral f.beanType := by
      apply isNeutral_of_unmarked
      rw [List.any_eq_false]
      intro c hc hm
      have hw : isWordChar c = false := by
        cases hw : isWordChar c with
        | false => rfl
        | true =>
          rw [isMark_of_isWordChar hw] at hm
          cases hm
      have hd : c ≠ '.' := by
        rintro rfl
        cases hm
      exact h.notMem_beanType hn hw hd hc
    have htest : IsNeutral " == null ? null : " := isNeutral_of_unmarked (by decide)
    have hmethod : IsNeutral ".fromRecord" := isNeutral_of_unmarked (by decide)
    have := (((hcall.append htest).append htype).append hmethod).append hcall.parentheses
    have hs : ".fromRecord(" = ".fromRecord" ++ "(" := rfl
    simpa only [if_true, hs, String.append_assoc] using this

theorem isNeutral_beanValue {f : Field} (h : IsLegible f) : IsNeutral (beanValue f) := by
  have hcall : IsNeutral ("this." ++ f.getter ++ "()") :=
    isNeutral_call (by decide) (isWord_getter h.name)
  unfold beanValue
  cases hn : f.isNested with
  | false => exact hcall
  | true =>
    have htest : IsNeutral " == null ? null : " := isNeutral_of_unmarked (by decide)
    have hmethod : IsNeutral ".toRecord" := isNeutral_of_unmarked (by decide)
    have := ((hcall.append htest).append hcall).append (hmethod.append isNeutral_pair)
    have hs : ".toRecord()" = ".toRecord" ++ "()" := rfl
    simpa only [if_true, hs, String.append_assoc] using this

theorem isClosed_commaSeparated {texts : List String} (h : ∀ t ∈ texts, IsNeutral t) :
    IsClosed (commaSeparated texts).toList := by
  unfold commaSeparated
  induction texts with
  | nil => exact isClosed_of_notMem (by decide) (by decide)
  | cons text texts ih =>
    have ht := (h text List.mem_cons_self).closed
    cases texts with
    | nil => exact ht
    | cons next texts =>
      have hs : IsClosed ", ".toList := isClosed_of_notMem (by decide) (by decide)
      rw [joined, String.toList_append, String.toList_append]
      exact (ht.append hs).append (ih fun t hm => h t (List.mem_cons_of_mem text hm))

/-- Reading what was written for each element gives what each element stands for. -/
theorem mapM_map_eq_some {α β γ : Type} {read : β → Option γ} {write : α → β} {meaning : α → γ}
    {as : List α} (h : ∀ a ∈ as, read (write a) = some (meaning a)) :
    (as.map write).mapM read = some (as.map meaning) := by
  induction as with
  | nil => rfl
  | cons a as ih =>
    rw [List.map_cons, List.mapM_cons, h a List.mem_cons_self,
      ih fun b hb => h b (List.mem_cons_of_mem a hb)]
    rfl

def readArguments (cs : List Char) : Option (List Expr) := (items cs).mapM readExpr

theorem readArguments_commaSeparated {fields : List Field} {text : Field → String}
    {meaning : Field → Expr} (hne : ∀ f ∈ fields, text f ≠ "")
    (hn : ∀ f ∈ fields, IsNeutral (text f))
    (hr : ∀ f ∈ fields, readExpr (text f).toList = some (meaning f)) :
    readArguments (commaSeparated (fields.map text)).toList = some (fields.map meaning) := by
  have hitems : ∀ t ∈ fields.map text, t ≠ "" ∧ wellBracketed 0 t.toList = true := by
    intro t ht
    obtain ⟨f, hf, rfl⟩ := List.mem_map.mp ht
    exact ⟨hne f hf, (hn f hf).bracketed⟩
  unfold readArguments
  rw [items_commaSeparated hitems, List.map_map]
  exact mapM_map_eq_some hr

/-! ## The two conversions -/

/-- The arguments of the object that a method returns. The method is given by its first line, and
its body by the only statement in it. -/
def readReturned (signature className text : String) : Option (List Expr) := do
  let opened ← text.toList.dropSuffix? ");\n  \x7d\n".toList
  let (before, arguments) ← atOpening opened
  let before ← before.dropSuffix? ("    return new " ++ className).toList
  let _ ← before.dropSuffix? (signature ++ " \x7b\n").toList
  readArguments arguments

theorem readReturned_eq (before signature className : String) {fields : List Field}
    {text : Field → String} {meaning : Field → Expr} (hne : ∀ f ∈ fields, text f ≠ "")
    (hn : ∀ f ∈ fields, IsNeutral (text f))
    (hr : ∀ f ∈ fields, readExpr (text f).toList = some (meaning f)) :
    readReturned signature className (before ++ (signature ++ " \x7b\n")
      ++ ("    return new " ++ className)
      ++ ("(" ++ commaSeparated (fields.map text)) ++ ");\n  \x7d\n") =
      some (fields.map meaning) := by
  have hclosed : IsClosed (commaSeparated (fields.map text)).toList := by
    apply isClosed_commaSeparated
    intro t ht
    obtain ⟨f, hf, rfl⟩ := List.mem_map.mp ht
    exact hn f hf
  have hopen : ("(" ++ commaSeparated (fields.map text)).toList =
      '(' :: (commaSeparated (fields.map text)).toList := by
    rw [String.toList_append]
    rfl
  unfold readReturned
  rw [String.toList_append, dropSuffix?_append, String.toList_append, hopen]
  simp only [Option.bind_eq_bind, Option.bind_some, atOpening_append _ hclosed]
  rw [String.toList_append, dropSuffix?_append]
  simp only [Option.bind_some]
  rw [String.toList_append, dropSuffix?_append]
  simp only [Option.bind_some]
  exact readArguments_commaSeparated hne hn hr

/-- What the static method of a bean hands to the constructor of the bean. -/
def readFromRecord (names : TypeNames) (text : String) : Option (List Expr) :=
  readReturned ("  public static " ++ names.bean ++ " fromRecord(" ++ names.record ++ " record)")
    names.bean text

/-- What the method of a bean hands to the constructor of the record. -/
def readToRecord (names : TypeNames) (text : String) : Option (List Expr) :=
  readReturned ("  public " ++ names.record ++ " toRecord()") names.record text

theorem recordValue_ne_empty (f : Field) : recordValue f ≠ "" := by
  intro he
  have := congrArg String.toList he
  unfold recordValue at this
  cases hn : f.isNested <;> simp [hn] at this

theorem beanValue_ne_empty (f : Field) : beanValue f ≠ "" := by
  intro he
  have := congrArg String.toList he
  unfold beanValue at this
  cases hn : f.isNested <;> simp [hn] at this

theorem readFromRecord_fromRecord {fields : List Field} (names : TypeNames)
    (h : ∀ f ∈ fields, IsLegible f) :
    readFromRecord names (fromRecord fields names) = some (fields.map Expr.ofRecord) := by
  have hread := readReturned_eq
    (outer ("/** Builds a bean from the given " ++ inlineCode names.record ++ " record. */")
      ++ "\n")
    ("  public static " ++ names.bean ++ " fromRecord(" ++ names.record ++ " record)") names.bean
    (fun f _ => recordValue_ne_empty f) (fun f hf => isNeutral_recordValue (h f hf))
    (fun f hf => readExpr_recordValue (h f hf))
  unfold readFromRecord
  rw [← hread]
  apply congrArg
  apply String.toList_injective
  simp [fromRecord, fromRecordLines, unlines, outer, Member.inner, close]

theorem readToRecord_toRecord {fields : List Field} (names : TypeNames)
    (h : ∀ f ∈ fields, IsLegible f) :
    readToRecord names (toRecord fields names) = some (fields.map Expr.ofBean) := by
  have hread := readReturned_eq
    (outer ("/** Builds a " ++ inlineCode names.record ++ " record from this bean. */") ++ "\n")
    ("  public " ++ names.record ++ " toRecord()") names.record
    (fun f _ => beanValue_ne_empty f) (fun f hf => isNeutral_beanValue (h f hf))
    (fun f hf => readExpr_beanValue (h f hf))
  unfold readToRecord
  rw [← hread]
  apply congrArg
  apply String.toList_injective
  simp [toRecord, toRecordLines, unlines, outer, Member.inner, close]

end RecordBean.Reading
