import RecordBean.Proofs.Layout
import RecordBean.Proofs.Reading.Storage

/-! # Recovering a schema from its source

A reader that takes the source of a bean back to its schema, line by line. What stands on a line of
its own is taken from between fixed texts. The fields come from two places: names and stored types
from the lines that declare the storage, and the nesting from the arguments with which a bean builds
its record, where a nested field is tested for null. The comment at the top can hold anything, also
lines like those of a class, so the header has to be known. Since the source gives the schema back,
two schemas with one source are the same. -/

namespace RecordBean.Recovery
open RecordBean.Text RecordBean.Reading RecordBean.SourceFile RecordBean.Member

/-! ## Lines -/

/-- The text between two fixed ones. -/
def between (p q : String) (line : List Char) : Option (List Char) :=
  (line.dropPrefix? p.toList).bind (·.dropSuffix? q.toList)

/-- The lines with a prefix, without it. -/
def behind (p : String) (ls : List (List Char)) : List (List Char) :=
  ls.filterMap (·.dropPrefix? p.toList)

/-- The pieces of a list with a comma and a blank between neighbours. -/
def readList (cs : List Char) : List (List Char) :=
  match Path.splitChars ',' cs with
  | [] => []
  | first :: others => first :: others.map dropBlank

/-! ## The head of a file -/

def readPackage (ls : List (List Char)) : Option String × List (List Char) :=
  match ls with
  | [] => (none, [])
  | l :: rest =>
    match between "package " ";" l with
    | some package => (some (String.ofList package), rest.drop 1)
    | none => (none, l :: rest)

/-- The level of access in front of a class, and what follows the words before its name. -/
def readVisibility (line : List Char) : Option (Visibility × List Char) :=
  Visibility.all.findSome? fun v =>
    (line.dropPrefix? (printVisibility v.keyword ++ "final class ").toList).map (v, ·)

def readInterfaces (cs : List Char) : Option (List String) :=
  (cs.dropPrefix? "implements ".toList).map fun list => (readList list).map String.ofList

/-- The line that opens the class: its level of access, the name of the record and the interfaces. -/
def readHead (line : List Char) : Option (Visibility × String × List String) := do
  let (visibility, rest) ← readVisibility line
  let rest ← rest.dropSuffix? " \x7b".toList
  let (className, interfaces) ← match cut ' ' rest with
    | none => some (rest, [])
    | some (className, rest) => (readInterfaces rest).map (className, ·)
  let simpleName ← className.dropSuffix? Name.beanSuffix.toList
  some (visibility, String.ofList simpleName, interfaces)

/-! ## Fields -/

/-- The stored types and the names of the fields. -/
def readStored (ls : List (List Char)) : Option (List (String × String)) :=
  (behind "  private " ls).mapM fun l => (l.dropSuffix? ";".toList).bind readTyped

/-- For every field whether it is tested for null before it goes into a record. The record is built
by the second method that returns something new. -/
def readNesting (record : String) (ls : List (List Char)) : Option (List Bool) := do
  let call ← (behind "    return new " ls)[1]?
  let arguments ← between (record ++ "(") ");" call
  some ((readList arguments).map (·.contains '?'))

def readField (stored : String × String) (isNested : Bool) : Option Field :=
  if isNested then
    (stored.1.toList.dropSuffix? Name.beanSuffix.toList).map fun type =>
      ⟨stored.2, String.ofList type, true⟩
  else some ⟨stored.2, stored.1, false⟩

def readFields (record : String) (ls : List (List Char)) : Option (List Field) := do
  let stored ← readStored ls
  let nesting ← readNesting record ls
  (stored.zip nesting).mapM fun (stored, isNested) => readField stored isNested

/-! ## The whole file -/

def isAnnotation (line : List Char) : Bool := line.head? == some '@'

def readBody (ls : List (List Char)) : Option Schema :=
  let (package, ls) := readPackage ls
  match ls with
  | _ :: _ :: doc :: ls => do
    let record ← between "/** A mutable bean interoperable with \x7b@code " "\x7d records. */" doc
    match ls.dropWhile isAnnotation with
    | [] => none
    | head :: members =>
      let (visibility, simpleName, interfaces) ← readHead head
      let fields ← readFields (String.ofList record) members
      some {
        qualifiedName := String.ofList record
        simpleName := simpleName
        packageName := package
        visibility := visibility
        fields := fields
        extraAnnotations := (ls.takeWhile isAnnotation).map fun l => String.ofList (l.drop 1)
        extraInterfaces := interfaces }
  | _ => none

/-- The schema of a source with a known header. -/
def readSource (header text : String) : Option Schema :=
  (text.toList.dropPrefix? (printHeader (harmless header)).toList).bind fun body =>
    readBody (Path.splitChars '\n' body)

/-! ## The head of a file, read back -/

theorem between_append (p q middle : String) :
    between p q (p ++ middle ++ q).toList = some middle.toList := by
  unfold between
  rw [String.toList_append, String.toList_append, List.append_assoc, dropPrefix?_append]
  exact dropSuffix?_append _ _

theorem readPackage_lines (package : Option String) (rest : List (List Char)) :
    readPackage ((packageLines package).map String.toList
        ++ (importLine "java.util.Objects").toList :: rest) =
      (package, (importLine "java.util.Objects").toList :: rest) := by
  cases package with
  | none => rfl
  | some p =>
    simp only [packageLines, List.map_cons, List.map_nil, List.cons_append, List.nil_append,
      readPackage, between_append, String.ofList_toList, List.drop_one, List.tail_cons]

/-- No two levels of access begin alike. -/
theorem dropPrefix?_visibility {u v : Visibility} (h : u ≠ v) (rest : List Char) :
    ((printVisibility v.keyword ++ "final class ").toList ++ rest).dropPrefix?
      (printVisibility u.keyword ++ "final class ").toList = none := by
  cases u <;> cases v <;> first | exact absurd rfl h | rfl

theorem readVisibility_append (v : Visibility) (rest : List Char) :
    readVisibility ((printVisibility v.keyword ++ "final class ").toList ++ rest) =
      some (v, rest) := by
  have hother : ∀ u, u ≠ v → (((printVisibility v.keyword ++ "final class ").toList ++ rest).dropPrefix?
      (printVisibility u.keyword ++ "final class ").toList).map (u, ·) = none := by
    intro u hu
    rw [dropPrefix?_visibility hu]
    rfl
  have hself : (((printVisibility v.keyword ++ "final class ").toList ++ rest).dropPrefix?
      (printVisibility v.keyword ++ "final class ").toList).map (v, ·) = some (v, rest) := by
    rw [dropPrefix?_append]
    rfl
  unfold readVisibility Visibility.all
  simp only [List.findSome?_cons, List.findSome?_nil]
  cases v with
  | «public» => rw [hself]
  | «protected» => rw [hother .public (by decide), hself]
  | «private» => rw [hother .public (by decide), hother .protected (by decide), hself]
  | packagePrivate =>
    rw [hother .public (by decide), hother .protected (by decide), hother .private (by decide),
      hself]

/-- Behind the first piece, every piece begins with the blank of its separator. -/
theorem splitChars_commaSeparated {text : String} {texts : List String}
    (h : ∀ t ∈ text :: texts, ',' ∉ t.toList) :
    Path.splitChars ',' (commaSeparated (text :: texts)).toList =
      text.toList :: texts.map fun t => ' ' :: t.toList := by
  unfold commaSeparated
  induction texts generalizing text with
  | nil => exact Path.splitChars_of_notMem (h text List.mem_cons_self)
  | cons next texts ih =>
    have hj : (joined ", " (text :: next :: texts)).toList =
        text.toList ++ ',' :: ' ' :: (joined ", " (next :: texts)).toList := by
      have hs : ", ".toList = [',', ' '] := rfl
      rw [joined, String.toList_append, String.toList_append, hs]
      simp
    rw [hj, Path.splitChars_append, Path.splitChars_of_notMem (h text List.mem_cons_self),
      Path.splitChars, if_neg (by decide), ih fun t ht => h t (List.mem_cons_of_mem text ht)]
    rfl

theorem readList_commaSeparated {texts : List String} (hne : texts ≠ [])
    (h : ∀ t ∈ texts, ',' ∉ t.toList) :
    readList (commaSeparated texts).toList = texts.map String.toList := by
  obtain ⟨text, texts, rfl⟩ := List.exists_cons_of_ne_nil hne
  unfold readList
  rw [splitChars_commaSeparated h]
  simp [dropBlank]

theorem readHead_headLine {s : Schema} (hn : ' ' ∉ s.beanName.toList)
    (hi : ∀ i ∈ s.extraInterfaces, ',' ∉ i.toList) :
    readHead (headLine s.visibility.keyword s.beanName s.extraInterfaces).toList =
      some (s.visibility, s.simpleName, s.extraInterfaces) := by
  have hname : s.beanName.toList.dropSuffix? Name.beanSuffix.toList = some s.simpleName.toList := by
    unfold Schema.beanName Name.companion
    rw [String.toList_append]
    exact dropSuffix?_append _ _
  unfold readHead headLine
  rw [String.toList_append, String.toList_append, String.toList_append, List.append_assoc,
    List.append_assoc, readVisibility_append]
  simp only [Option.bind_eq_bind, Option.bind_some, ← List.append_assoc, dropSuffix?_append]
  unfold printInterfaces
  cases hempty : s.extraInterfaces with
  | nil =>
    simp [cut_eq_none hn, hname]
  | cons i rest =>
    have hlist : readList (commaSeparated (i :: rest)).toList = (i :: rest).map String.toList :=
      readList_commaSeparated (List.cons_ne_nil i rest) (hempty ▸ hi)
    have hs : " implements ".toList = ' ' :: "implements ".toList := rfl
    simp only [List.isEmpty_cons, Bool.false_eq_true, if_false, String.toList_append, hs,
      List.cons_append, cut_append _ hn, readInterfaces, dropPrefix?_append, Option.map_some,
      hlist, Option.bind_some, hname, List.map_map, String.ofList_toList]
    simp

/-! ## Lines that tell nothing about fields -/

/-- A line that neither declares a field nor returns something new. -/
structure IsSilent (line : String) : Prop where
  declares : line.toList.dropPrefix? "  private ".toList = none
  returns : line.toList.dropPrefix? "    return new ".toList = none

theorem isSilent_outer {text : String} (hr : text.toList[1]? ≠ some 'r')
    (hs : text.toList[1]? ≠ some ' ') : IsSilent (outer text) := by
  have hget : (outer text).toList[3]? = text.toList[1]? := by
    unfold outer
    rw [String.toList_append]
    rfl
  rw [← hget] at hr hs
  exact ⟨dropPrefix?_eq_none 3 rfl hr, dropPrefix?_eq_none 3 rfl hs⟩

theorem isSilent_inner {text : String} (i : Nat) {c : Char}
    (hi : "return new ".toList[i]? = some c) (hc : text.toList[i]? ≠ some c) :
    IsSilent (Member.inner text) := by
  have hget : (Member.inner text).toList[i + 4]? = text.toList[i]? := by
    unfold Member.inner
    rw [String.toList_append]
    rfl
  have hthird : (Member.inner text).toList[3]? ≠ some 'r' := by
    unfold Member.inner
    rw [String.toList_append]
    simp
  rw [← hget] at hc
  exact ⟨dropPrefix?_eq_none 3 rfl hthird, dropPrefix?_eq_none (i + 4) hi hc⟩

theorem isSilent_empty : IsSilent "" := ⟨rfl, rfl⟩

theorem isSilent_close : IsSilent close := ⟨rfl, rfl⟩

theorem isSilent_public (text : String) : IsSilent (outer ("public " ++ text)) :=
  isSilent_outer (by simp) (by simp)

theorem isSilent_assignment (f : Field) : IsSilent (assignment f) :=
  isSilent_inner 0 (c := 'r') rfl (by simp)

section
variable (fields : List Field) (names : TypeNames)

theorem isSilent_constructorLines : ∀ l ∈ constructorLines fields names, IsSilent l := by
  have hnull : ∀ l ∈ nullConstructorLines names, IsSilent l := by
    simp only [nullConstructorLines, List.forall_mem_cons, List.not_mem_nil, false_implies,
      implies_true, and_true, String.append_assoc]
    exact ⟨isSilent_outer (by decide) (by decide), isSilent_public _⟩
  have hcanonical : ∀ l ∈ canonicalConstructorLines fields names, IsSilent l := by
    simp only [canonicalConstructorLines, List.forall_mem_append, List.forall_mem_cons,
      List.forall_mem_map, List.not_mem_nil, false_implies, implies_true, and_true,
      String.append_assoc]
    exact ⟨⟨⟨isSilent_outer (by decide) (by decide), isSilent_public _⟩,
      fun f _ => isSilent_assignment f⟩, isSilent_close⟩
  unfold constructorLines
  split
  · exact hnull
  · simp only [List.forall_mem_append, List.forall_mem_cons]
    exact ⟨hnull, isSilent_empty, hcanonical⟩

theorem isSilent_equality :
    ∀ l ∈ equalsLines fields names ++ "" :: hashCodeLines fields, IsSilent l := by
  have hequals : ∀ l ∈ equalsLines fields names, IsSilent l := by
    simp only [equalsLines, List.forall_mem_append, List.forall_mem_cons, List.forall_mem_map,
      List.not_mem_nil, false_implies, implies_true, and_true, String.append_assoc]
    refine ⟨⟨⟨?_, ?_, ?_, ?_⟩, fun f _ => ?_⟩, ?_, isSilent_close⟩
    · exact isSilent_outer (by decide) (by decide)
    · exact isSilent_outer (by decide) (by decide)
    · exact isSilent_inner 7 (c := 'n') rfl (by decide)
    · exact isSilent_inner 0 (c := 'r') rfl (by simp)
    · exact isSilent_inner 0 (c := 'r') rfl (by simp)
    · exact isSilent_inner 0 (c := 'r') rfl (by decide)
  have hhash : ∀ l ∈ hashCodeLines fields, IsSilent l := by
    simp only [hashCodeLines, List.forall_mem_cons, List.not_mem_nil, false_implies, implies_true,
      and_true, String.append_assoc]
    refine ⟨?_, ?_, ?_, isSilent_close⟩
    · exact isSilent_outer (by decide) (by decide)
    · exact isSilent_outer (by decide) (by decide)
    · exact isSilent_inner 7 (c := 'n') rfl (by simp)
  simp only [List.forall_mem_append, List.forall_mem_cons]
  exact ⟨hequals, isSilent_empty, hhash⟩

theorem isSilent_shownField (f : Field) (rest : String) : IsSilent (shownField f ++ rest) := by
  have hline : shownField f ++ rest =
      Member.inner ("  + \"" ++ (f.name ++ "=\" + this." ++ f.name ++ rest)) := by
    simp [shownField, Member.inner, String.append_assoc]
  rw [hline]
  exact isSilent_inner 0 (c := 'r') rfl (by simp)

theorem isSilent_shownFieldLines : ∀ l ∈ shownFieldLines fields, IsSilent l := by
  fun_induction shownFieldLines fields with
  | case1 => simp
  | case2 f =>
    intro l hl
    rw [List.mem_singleton.mp hl, ← String.append_empty (s := shownField f)]
    exact isSilent_shownField f ""
  | case3 f g rest ih =>
    rw [List.forall_mem_cons]
    exact ⟨isSilent_shownField f _, ih⟩

theorem isSilent_toStringLines : ∀ l ∈ toStringLines fields names, IsSilent l := by
  have hshown : ∀ l ∈ shownLines fields names, IsSilent l := by
    unfold shownLines
    split
    · simp only [List.forall_mem_cons, List.not_mem_nil, false_implies, implies_true, and_true,
        String.append_assoc]
      exact isSilent_inner 7 (c := 'n') rfl (by simp)
    · simp only [List.forall_mem_append, List.forall_mem_cons, List.not_mem_nil, false_implies,
        implies_true, and_true, String.append_assoc]
      refine ⟨⟨?_, isSilent_shownFieldLines fields⟩, ?_⟩
      · exact isSilent_inner 7 (c := 'n') rfl (by simp)
      · exact isSilent_inner 0 (c := 'r') rfl (by decide)
  simp only [toStringLines, List.forall_mem_append, List.forall_mem_cons, List.not_mem_nil,
    false_implies, implies_true, and_true]
  refine ⟨⟨⟨?_, ?_⟩, hshown⟩, isSilent_close⟩
  · exact isSilent_outer (by decide) (by decide)
  · exact isSilent_outer (by decide) (by decide)

end

/-! ## Fields, read back -/

theorem behind_append (p : String) (a b : List (List Char)) :
    behind p (a ++ b) = behind p a ++ behind p b := List.filterMap_append

theorem behind_of_none {p : String} {ls : List String}
    (h : ∀ l ∈ ls, l.toList.dropPrefix? p.toList = none) : behind p (ls.map String.toList) = [] := by
  unfold behind
  rw [List.filterMap_map, List.filterMap_eq_nil_iff]
  exact h

theorem behind_emptyLine {p : String} (h : "".toList.dropPrefix? p.toList = none) :
    behind p ["".toList] = [] :=
  behind_of_none fun l hl => by
    rw [List.mem_singleton.mp hl]
    exact h

/-- Empty lines between members tell nothing, and a member without lines does neither. -/
theorem behind_blocks {p : String} (h : "".toList.dropPrefix? p.toList = none)
    (blocks : List (List String)) :
    behind p (((blocks.filter (!·.isEmpty)).flatMap ("" :: ·)).map String.toList) =
      blocks.flatMap fun b => behind p (b.map String.toList) :=
  filterMap_blocks h blocks

theorem behind_append_left (p : String) (text : String) :
    behind p [(p ++ text).toList] = [text.toList] := by
  simp [behind, dropPrefix?_append]

/-- A method with one statement, which returns something new. -/
theorem behind_conversion {a b : String} (ha : IsSilent a) (hb : IsSilent b) (call : String) :
    let ls := [a, b, Member.inner ("return new " ++ call), close].map String.toList
    behind "  private " ls = [] ∧ behind "    return new " ls = [call.toList] := by
  have hreturn : Member.inner ("return new " ++ call) = "    return new " ++ call := by
    simp [Member.inner, ← String.append_assoc]
  constructor
  · apply behind_of_none
    simp only [List.forall_mem_cons, List.not_mem_nil, false_implies, implies_true, and_true]
    refine ⟨ha.declares, hb.declares, ?_, isSilent_close.declares⟩
    rw [hreturn]
    exact dropPrefix?_eq_none 3 (c := 'r') rfl (by simp)
  · have hbefore : behind "    return new " ([a, b].map String.toList) = [] := by
      apply behind_of_none
      simp only [List.forall_mem_cons, List.not_mem_nil, false_implies, implies_true, and_true]
      exact ⟨ha.returns, hb.returns⟩
    have hafter : behind "    return new " ([close].map String.toList) = [] := rfl
    have hsplit : [a, b, Member.inner ("return new " ++ call), close].map String.toList =
        [a, b].map String.toList ++
          ([("    return new " ++ call).toList] ++ [close].map String.toList) := by
      rw [← hreturn]
      rfl
    rw [hsplit, behind_append, behind_append, hbefore, hafter, behind_append_left]
    rfl

theorem behind_fieldLines (names : TypeNames) (f : Field) :
    behind "  private " ((fieldLines names f).map String.toList) =
        [(f.beanType ++ " " ++ f.name ++ ";").toList] ∧
      behind "    return new " ((fieldLines names f).map String.toList) = [] := by
  have hstorage : storage f = "  private " ++ (f.beanType ++ " " ++ f.name ++ ";") := by
    simp [storage, outer, ← String.append_assoc]
  have hothers : ∀ l ∈ "" :: getterLines f ++ "" :: setterLines f names, IsSilent l := by
    simp only [getterLines, setterLines, List.forall_mem_append, List.forall_mem_cons,
      List.not_mem_nil, false_implies, implies_true, and_true, String.append_assoc]
    refine ⟨⟨isSilent_empty, ?_, isSilent_public _, ?_, isSilent_close⟩,
      isSilent_empty, ?_, isSilent_public _, isSilent_assignment f, ?_, isSilent_close⟩
    · exact isSilent_outer (by simp) (by simp)
    · exact isSilent_inner 7 (c := 'n') rfl (by simp)
    · exact isSilent_outer (by simp) (by simp)
    · exact isSilent_inner 7 (c := 'n') rfl (by decide)
  have hsplit : (fieldLines names f).map String.toList =
      [(storage f).toList] ++ ("" :: getterLines f ++ "" :: setterLines f names).map
        String.toList := rfl
  constructor
  · rw [hsplit, behind_append, behind_of_none fun l hl => (hothers l hl).declares, hstorage,
      behind_append_left]
    rfl
  · have hreturns : ∀ l ∈ [storage f], l.toList.dropPrefix? "    return new ".toList = none := by
      intro l hl
      rw [List.mem_singleton.mp hl, hstorage]
      exact dropPrefix?_eq_none 3 (c := ' ') rfl (by simp)
    have hfirst : behind "    return new " [(storage f).toList] = [] := behind_of_none hreturns
    rw [hsplit, behind_append, behind_of_none fun l hl => (hothers l hl).returns, hfirst]
    rfl

theorem behind_accessorLines (names : TypeNames) (fields : List Field) :
    behind "  private " ((accessorLines names fields).map String.toList) =
        fields.map (fun f => (f.beanType ++ " " ++ f.name ++ ";").toList) ∧
      behind "    return new " ((accessorLines names fields).map String.toList) = [] := by
  fun_induction accessorLines names fields with
  | case1 => exact ⟨rfl, rfl⟩
  | case2 f => exact behind_fieldLines names f
  | case3 f g rest ih =>
    obtain ⟨hdeclares, hreturns⟩ := behind_fieldLines names f
    have hempty (p : String) (h : "".toList.dropPrefix? p.toList = none) :
        behind p ["".toList] = [] := behind_emptyLine h
    rw [List.map_append, List.map_cons, ← List.singleton_append, behind_append, behind_append,
      behind_append, behind_append, hempty _ rfl, hempty _ rfl, hdeclares, hreturns, ih.1, ih.2]
    exact ⟨rfl, rfl⟩

/-! ### The class body -/

section
variable (fields : List Field) (names : TypeNames)

theorem behind_fromRecordLines :
    behind "  private " ((fromRecordLines fields names).map String.toList) = [] ∧
      behind "    return new " ((fromRecordLines fields names).map String.toList) =
        [(names.bean ++ "(" ++ commaSeparated (fields.map recordValue) ++ ");").toList] := by
  have hcomment : IsSilent
      (outer ("/** Builds a bean from the given " ++ inlineCode names.record ++ " record. */")) :=
    isSilent_outer (by simp) (by simp)
  have hsignature : IsSilent
      (outer ("public static " ++ names.bean ++ " fromRecord(" ++ names.record ++ " record) \x7b")) :=
    isSilent_outer (by simp) (by simp)
  have := behind_conversion hcomment hsignature
    (names.bean ++ "(" ++ commaSeparated (fields.map recordValue) ++ ");")
  simpa only [fromRecordLines, String.append_assoc] using this

theorem behind_toRecordLines :
    behind "  private " ((toRecordLines fields names).map String.toList) = [] ∧
      behind "    return new " ((toRecordLines fields names).map String.toList) =
        [(names.record ++ "(" ++ commaSeparated (fields.map beanValue) ++ ");").toList] := by
  have hcomment : IsSilent
      (outer ("/** Builds a " ++ inlineCode names.record ++ " record from this bean. */")) :=
    isSilent_outer (by simp) (by simp)
  have hsignature : IsSilent (outer ("public " ++ names.record ++ " toRecord() \x7b")) :=
    isSilent_outer (by simp) (by simp)
  have := behind_conversion hcomment hsignature
    (names.record ++ "(" ++ commaSeparated (fields.map beanValue) ++ ");")
  simpa only [toRecordLines, String.append_assoc] using this

end

/-- The lines below the one that opens the class. Behind the last line feed there is one more. -/
def classBody (s : Schema) : List (List Char) :=
  ((shownBlocks s).flatMap ("" :: ·)).map String.toList ++ ["\x7d".toList, []]

/-- What the class body tells about the fields: their declarations, and what the two conversions
return. -/
theorem behind_classBody (s : Schema) :
    behind "  private " (classBody s) =
        s.fields.map (fun f => (f.beanType ++ " " ++ f.name ++ ";").toList) ∧
      behind "    return new " (classBody s) = [
        (s.beanName ++ "(" ++ commaSeparated (s.fields.map recordValue) ++ ");").toList,
        (s.qualifiedName ++ "(" ++ commaSeparated (s.fields.map beanValue) ++ ");").toList] := by
  have hconstructors := isSilent_constructorLines s.fields (TypeNames.of s)
  have hequality := isSilent_equality s.fields (TypeNames.of s)
  have hshown := isSilent_toStringLines s.fields (TypeNames.of s)
  obtain ⟨hfrom, hfrom'⟩ := behind_fromRecordLines s.fields (TypeNames.of s)
  obtain ⟨hto, hto'⟩ := behind_toRecordLines s.fields (TypeNames.of s)
  obtain ⟨haccess, haccess'⟩ := behind_accessorLines (TypeNames.of s) s.fields
  have hend : behind "  private " ["\x7d".toList, []] = [] := rfl
  have hend' : behind "    return new " ["\x7d".toList, []] = [] := rfl
  unfold classBody shownBlocks
  rw [behind_append, behind_append, behind_blocks rfl, behind_blocks rfl, hend, hend']
  unfold memberBlocks
  simp only [List.flatMap_cons, List.flatMap_nil, hfrom, hfrom', hto, hto', haccess, haccess']
  rw [behind_of_none fun l hl => (hconstructors l hl).declares,
    behind_of_none fun l hl => (hconstructors l hl).returns,
    behind_of_none fun l hl => (hequality l hl).declares,
    behind_of_none fun l hl => (hequality l hl).returns,
    behind_of_none fun l hl => (hshown l hl).declares,
    behind_of_none fun l hl => (hshown l hl).returns]
  simp only [List.append_nil, List.nil_append]
  exact ⟨trivial, rfl⟩

theorem readStored_lines {fields : List Field} {ls : List (List Char)}
    (hls : behind "  private " ls =
      fields.map (fun f => (f.beanType ++ " " ++ f.name ++ ";").toList))
    (hn : ∀ f ∈ fields, ' ' ∉ f.name.toList) :
    readStored ls = some (fields.map fun f => (f.beanType, f.name)) := by
  unfold readStored
  rw [hls]
  refine mapM_map_eq_some fun f hf => ?_
  have hline : (f.beanType ++ " " ++ f.name ++ ";").toList =
      (f.beanType.toList ++ ' ' :: f.name.toList) ++ ";".toList := by
    simp
  rw [hline, dropSuffix?_append]
  exact readTyped_append f.beanType (hn f hf)

/-- A question mark stands in the argument of a nested field only. -/
theorem contains_beanValue {f : Field} (h : IsWord f.name.toList) :
    (beanValue f).toList.contains '?' = f.isNested := by
  have hcall : '?' ∉ ("this." ++ f.getter ++ "()").toList :=
    notMem_call (isWord_getter h) (by decide) (by decide) (by decide)
  unfold beanValue
  cases f.isNested with
  | false => simpa using hcall
  | true => simp

theorem notMem_beanValue {f : Field} (h : IsWord f.name.toList) : ',' ∉ (beanValue f).toList := by
  have hcall : ',' ∉ ("this." ++ f.getter ++ "()").toList :=
    notMem_call (isWord_getter h) (by decide) (by decide) (by decide)
  unfold beanValue
  cases f.isNested with
  | false => simpa using hcall
  | true =>
    simp only [String.toList_append, List.mem_append, not_or, if_true] at hcall ⊢
    exact ⟨⟨⟨hcall, by decide⟩, hcall⟩, by decide⟩

/-- Every field has its answer. A list without fields reads as one empty argument. -/
theorem readNesting_lines {fields : List Field} {record : String} {first : List Char}
    {ls : List (List Char)}
    (hls : behind "    return new " ls =
      [first, (record ++ "(" ++ commaSeparated (fields.map beanValue) ++ ");").toList])
    (hn : ∀ f ∈ fields, IsWord f.name.toList) :
    ∃ more, readNesting record ls = some (fields.map (·.isNested) ++ more) ∧
      (fields = [] ∨ more = []) := by
  unfold readNesting
  rw [hls]
  simp only [List.getElem?_cons_succ, List.getElem?_cons_zero, Option.bind_eq_bind,
    Option.bind_some, between_append]
  cases fields with
  | nil => exact ⟨[false], rfl, Or.inl rfl⟩
  | cons f rest =>
    have hcomma : ∀ t ∈ (f :: rest).map beanValue, ',' ∉ t.toList := by
      rw [List.forall_mem_map]
      exact fun g hg => notMem_beanValue (hn g hg)
    refine ⟨[], ?_, Or.inr rfl⟩
    rw [readList_commaSeparated (by simp) hcomma, List.map_map, List.map_map, List.append_nil]
    congr 1
    refine List.map_congr_left fun g hg => ?_
    exact contains_beanValue (hn g hg)

theorem readField_stored (f : Field) : readField (f.beanType, f.name) f.isNested = some f := by
  obtain ⟨name, type, isNested⟩ := f
  cases isNested with
  | false => rfl
  | true =>
    unfold readField Field.beanType Name.companion
    simp only [if_true, String.toList_append, dropSuffix?_append, Option.map_some,
      String.ofList_toList]

theorem zip_map_append {α β γ : Type} {as : List α} (f : α → β) (g : α → γ) {more : List γ}
    (h : as = [] ∨ more = []) :
    (as.map f).zip (as.map g ++ more) = as.map fun a => (f a, g a) := by
  rcases h with rfl | rfl
  · rfl
  · rw [List.append_nil, List.zip_map']

theorem readFields_classBody {s : Schema} (hn : ∀ f ∈ s.fields, IsWord f.name.toList) :
    readFields s.qualifiedName (classBody s) = some s.fields := by
  obtain ⟨hdeclares, hreturns⟩ := behind_classBody s
  obtain ⟨more, hnesting, hmore⟩ := readNesting_lines hreturns hn
  unfold readFields
  rw [readStored_lines hdeclares fun f hf => (hn f hf).notMem (by decide), hnesting]
  simp only [Option.bind_eq_bind, Option.bind_some, zip_map_append _ _ hmore]
  rw [mapM_map_eq_some fun f _ => readField_stored f, List.map_id']

/-! ## The whole file, read back -/

theorem isAnnotation_annotationLine (behindAt : String) :
    isAnnotation (annotationLine behindAt).toList = true := by
  unfold isAnnotation annotationLine
  rw [String.toList_append]
  rfl

theorem isAnnotation_headLine (s : Schema) :
    isAnnotation (headLine s.visibility.keyword s.beanName s.extraInterfaces).toList = false := by
  unfold isAnnotation headLine
  simp only [String.toList_append, List.append_assoc]
  cases s.visibility <;> rfl

theorem drop_one_annotationLine (behindAt : String) :
    String.ofList ((annotationLine behindAt).toList.drop 1) = behindAt := by
  unfold annotationLine
  rw [String.toList_append]
  exact String.ofList_toList

theorem lines_bodyLines (s : Schema) (header : String) :
    ((layoutOf s header).bodyLines (shownBlocks s)).map String.toList ++ [[]] =
      (packageLines s.packageName).map String.toList ++ (importLine "java.util.Objects").toList ::
        [] :: (docLine ("A mutable bean interoperable with " ++ inlineCode s.qualifiedName
          ++ " records.")).toList ::
        (s.extraAnnotations.map (fun a => (annotationLine a).toList) ++
          (headLine s.visibility.keyword s.beanName s.extraInterfaces).toList :: classBody s) := by
  unfold SourceFile.bodyLines classBody
  simp [layoutOf]

theorem readBody_bodyLines {s : Schema} (header : String) (hs : IsWord s.simpleName.toList)
    (hn : ∀ f ∈ s.fields, IsWord f.name.toList) (hi : ∀ i ∈ s.extraInterfaces, ',' ∉ i.toList) :
    readBody (((layoutOf s header).bodyLines (shownBlocks s)).map String.toList ++ [[]]) =
      some s := by
  have hdoc : docLine ("A mutable bean interoperable with " ++ inlineCode s.qualifiedName
      ++ " records.") = "/** A mutable bean interoperable with \x7b@code " ++ s.qualifiedName
        ++ "\x7d records. */" := by
    apply String.toList_injective
    simp [docLine, inlineCode]
  have hannotations : ∀ l ∈ s.extraAnnotations.map (fun a => (annotationLine a).toList),
      isAnnotation l = true := by
    rw [List.forall_mem_map]
    exact fun a _ => isAnnotation_annotationLine a
  have hhead := readHead_headLine (notMem_beanName hs (by decide)) hi
  have hnames : s.extraAnnotations.map
      (fun a => String.ofList ((annotationLine a).toList.drop 1)) = s.extraAnnotations := by
    simp only [drop_one_annotationLine, List.map_id']
  rw [lines_bodyLines]
  unfold readBody
  rw [readPackage_lines, hdoc]
  simp only [between_append, Option.bind_eq_bind, Option.bind_some,
    List.dropWhile_append_of_pos hannotations, List.takeWhile_append_of_pos hannotations,
    List.dropWhile_cons, List.takeWhile_cons, isAnnotation_headLine, Bool.false_eq_true, if_false,
    hhead, String.ofList_toList, readFields_classBody hn, List.append_nil, List.map_map,
    Function.comp_def, hnames]

/-- A source gives back the schema that it was rendered from. -/
theorem readSource_renderOwn {s : Schema} {header text : String}
    (h : renderOwn s header = .ok text) (hone : IsOneLine s)
    (hi : ∀ i ∈ s.extraInterfaces, ',' ∉ i.toList) : readSource header text = some s := by
  obtain ⟨hs, hn⟩ := isWord_of_renderOwn h
  have hlines := lines_unlines (hone.bodyLines hs hn header)
  unfold Reading.lines at hlines
  unfold readSource
  rw [renderOwn_eq h, String.toList_append, dropPrefix?_append, Option.bind_some, hlines]
  exact readBody_bodyLines header hs hn hi

/-- Sources with one header are the same exactly if they come from the same schema. -/
theorem sources_eq_iff {s u : Schema} {header source other : String}
    (hs : renderOwn s header = .ok source) (hu : renderOwn u header = .ok other)
    (sone : IsOneLine s) (uone : IsOneLine u) (si : ∀ i ∈ s.extraInterfaces, ',' ∉ i.toList)
    (ui : ∀ i ∈ u.extraInterfaces, ',' ∉ i.toList) : source = other ↔ s = u := by
  constructor
  · rintro rfl
    have hread := readSource_renderOwn hs sone si
    rw [readSource_renderOwn hu uone ui] at hread
    exact (Option.some.inj hread).symm
  · rintro rfl
    rw [hs] at hu
    exact Except.ok.inj hu

/-- A record with a nested record and a type that has a comma in it. -/
def coffee : Schema where
  qualifiedName := "demo.Coffee"
  simpleName := "Coffee"
  packageName := some "demo"
  visibility := .public
  fields := [⟨"taste", "Taste", true⟩, ⟨"prices", "Map<String, Integer>", false⟩]
  extraAnnotations := ["Deprecated"]
  extraInterfaces := ["Drink", "java.io.Serializable"]

theorem exists_renderOwn_coffee : ∃ text, renderOwn coffee defaultHeader = .ok text :=
  exists_renderOwn_iff.mpr ⟨by decide, by decide, by decide⟩

/-- The same record, its first component declared with the type of the bean. -/
def coffeeOfBeans : Schema :=
  { coffee with
    fields := [⟨"taste", "TasteBean", false⟩, ⟨"prices", "Map<String, Integer>", false⟩] }

/-- A nested record is told from a plain component with the type of its bean. -/
theorem coffee_sources_ne :
    IsOneLine coffee ∧ IsOneLine coffeeOfBeans ∧ ∃ source other,
      renderOwn coffee defaultHeader = .ok source ∧
      renderOwn coffeeOfBeans defaultHeader = .ok other ∧ source ≠ other := by
  have hone : IsOneLine coffee := by
    refine ⟨by decide, ?_, by decide, by decide, by decide⟩
    intro p hp
    rw [← Option.some.inj hp]
    decide
  have hone' : IsOneLine coffeeOfBeans :=
    ⟨hone.qualifiedName, hone.packageName, by decide, hone.annotations, hone.interfaces⟩
  obtain ⟨source, hs⟩ := exists_renderOwn_coffee
  obtain ⟨other, hu⟩ : ∃ other, renderOwn coffeeOfBeans defaultHeader = .ok other :=
    exists_renderOwn_iff.mpr ⟨by decide, by decide, by decide⟩
  refine ⟨hone, hone', source, other, hs, hu, fun he => ?_⟩
  have hsame := (sources_eq_iff hs hu hone hone' (by decide) (by decide)).mp he
  exact absurd hsame (by decide)

end RecordBean.Recovery
