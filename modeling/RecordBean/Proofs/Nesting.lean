import RecordBean.Proofs.Header
import RecordBean.Proofs.Layout

/-! # Nested brackets

A source is properly nested in braces and parentheses if the texts that it passes on are. Brackets
are matched from left to right: what has been read leaves the closing brackets that are still due,
and a nested text leaves what was due before it. So the texts that vary are passed over in one step,
and what is left of a member to be read is fixed. -/

namespace RecordBean.Nesting
open RecordBean.Text RecordBean.SourceFile RecordBean.Member RecordBean.Header

/-! ## Closing brackets that are due -/

/-- The closing brackets that are due behind one more character, the next one first. A closing
bracket that is not the next one is refused. -/
def step (due : List Char) (c : Char) : Option (List Char) :=
  if c = '(' then some (')' :: due)
  else if c = '\x7b' then some ('\x7d' :: due)
  else if c = ')' ∨ c = '\x7d' then
    match due with
    | next :: rest => if c = next then some rest else none
    | [] => none
  else some due

/-- The closing brackets that are due behind a text. -/
def dueAfter (due : List Char) (text : String) : Option (List Char) := text.toList.foldlM step due

/-- Every bracket of the text has its partner in it, and of two pairs one lies within the other or
both are apart. -/
def IsNested (text : String) : Prop := dueAfter [] text = some []

instance (text : String) : Decidable (IsNested text) :=
  inferInstanceAs (Decidable (dueAfter [] text = some []))

theorem dueAfter_append (due : List Char) (a b : String) :
    dueAfter due (a ++ b) = (dueAfter due a).bind (dueAfter · b) := by
  unfold dueAfter
  rw [String.toList_append, List.foldlM_append]
  rfl

/-- Brackets that are due already stay due. -/
theorem step_frame {due next : List Char} {c : Char} (h : step due c = some next)
    (outer : List Char) : step (due ++ outer) c = some (next ++ outer) := by
  unfold step at h ⊢
  split_ifs at h ⊢ with hround hcurly hclose
  · rw [← Option.some.inj h]
    rfl
  · rw [← Option.some.inj h]
    rfl
  · cases due with
    | nil => cases h
    | cons top rest =>
      simp only [List.cons_append] at h ⊢
      split_ifs at h ⊢
      rw [← Option.some.inj h]
  · rw [← Option.some.inj h]

theorem foldlM_step_frame {cs due next : List Char} (h : cs.foldlM step due = some next)
    (outer : List Char) : cs.foldlM step (due ++ outer) = some (next ++ outer) := by
  induction cs generalizing due with
  | nil =>
    rw [← Option.some.inj h]
    rfl
  | cons c cs ih =>
    rw [List.foldlM_cons] at h ⊢
    obtain ⟨middle, hstep, hrest⟩ := Option.bind_eq_some_iff.mp h
    rw [step_frame hstep]
    exact ih hrest

/-- A nested text leaves what was due before it. -/
theorem IsNested.due {text : String} (h : IsNested text) (due : List Char) :
    dueAfter due text = some due := foldlM_step_frame h due

theorem IsNested.append {a b : String} (ha : IsNested a) (hb : IsNested b) :
    IsNested (a ++ b) := by
  unfold IsNested
  rw [dueAfter_append, ha.due, Option.bind_some, hb.due]

/-! ## Partners -/

/-- Split a text, in front of which the given brackets are due, at the bracket behind which none is
due any more. -/
def atPartner : List Char → List Char → Option (List Char × List Char)
  | _, [] => none
  | due, c :: rest =>
    match step due c with
    | none => none
    | some [] => some ([], rest)
    | some next => (atPartner next rest).map fun (inside, behind) => (c :: inside, behind)

/-- The brace behind a nested text is the partner of the one in front of it. -/
theorem atPartner_append {inside : List Char} (behind : List Char) {due : List Char}
    (h : inside.foldlM step due = some []) :
    atPartner (due ++ ['\x7d']) (inside ++ '\x7d' :: behind) = some (inside, behind) := by
  induction inside generalizing due with
  | nil =>
    rw [Option.some.inj h]
    rfl
  | cons c inside ih =>
    rw [List.foldlM_cons] at h
    obtain ⟨next, hstep, hrest⟩ := Option.bind_eq_some_iff.mp h
    have hpartner := ih hrest
    rw [List.cons_append, atPartner, step_frame hstep]
    cases next <;> simpa using hpartner

/-! ## Texts without brackets -/

def isBracket (c : Char) : Bool := c == '(' || c == ')' || c == '\x7b' || c == '\x7d'

theorem step_plain {c : Char} (h : isBracket c = false) (due : List Char) :
    step due c = some due := by
  simp only [isBracket, Bool.or_eq_false_iff, beq_eq_false_iff_ne] at h
  simp [step, h]

theorem isNested_of_plain {text : String} (h : ∀ c ∈ text.toList, isBracket c = false) :
    IsNested text := by
  unfold IsNested dueAfter
  generalize text.toList = cs at h
  induction cs with
  | nil => rfl
  | cons c cs ih =>
    obtain ⟨hc, hcs⟩ := List.forall_mem_cons.mp h
    rw [List.foldlM_cons, step_plain hc]
    exact ih hcs

theorem isBracket_of_isWordChar {c : Char} (h : isWordChar c = true) : isBracket c = false := by
  have hw : ∀ d, isWordChar d = false → c ≠ d := fun d hd =>
    ne_of_apply_ne isWordChar (by simp [h, hd])
  simp [isBracket, hw '(' rfl, hw ')' rfl, hw '\x7b' rfl, hw '\x7d' rfl]

theorem isNested_word {text : String} (h : IsWord text.toList) : IsNested text :=
  isNested_of_plain fun _ hc => isBracket_of_isWordChar (h.of_mem hc)

/-- Blanks play no part in nesting. -/
theorem foldlM_step_visible (cs due : List Char) :
    (visible cs).foldlM step due = cs.foldlM step due := by
  induction cs generalizing due with
  | nil => rfl
  | cons c cs ih =>
    unfold visible at ih ⊢
    cases hc : isBlank c with
    | false =>
      rw [List.filter_cons_of_pos (by simp [hc]), List.foldlM_cons, List.foldlM_cons]
      exact congrArg _ (funext ih)
    | true =>
      have hplain : isBracket c = false := by
        have hb : ∀ d, isBlank d = false → c ≠ d := fun d hd =>
          ne_of_apply_ne isBlank (by simp [hc, hd])
        simp [isBracket, hb '(' (by decide), hb ')' (by decide), hb '\x7b' (by decide),
          hb '\x7d' (by decide)]
      rw [List.filter_cons_of_neg (by simp [hc]), List.foldlM_cons, step_plain hplain, ih]
      rfl

/-- A header is as nested in its comment as it is itself. -/
theorem isNested_commentText {header : String} (h : IsNested header) :
    IsNested (commentText header) := by
  unfold IsNested dueAfter at h ⊢
  rw [← foldlM_step_visible, visible_commentText, foldlM_step_visible, h]

/-! ## Lines and lists -/

theorem isNested_unlines {ls : List String} (h : ∀ l ∈ ls, IsNested l) :
    IsNested (unlines ls) := by
  induction ls with
  | nil => rfl
  | cons l ls ih =>
    obtain ⟨hl, hls⟩ := List.forall_mem_cons.mp h
    have hfeed : IsNested "\n" := by decide
    exact (hl.append hfeed).append (ih hls)

theorem isNested_commaSeparated {texts : List String} (h : ∀ t ∈ texts, IsNested t) :
    IsNested (commaSeparated texts) := by
  unfold commaSeparated
  induction texts with
  | nil => rfl
  | cons text texts ih =>
    obtain ⟨htext, hrest⟩ := List.forall_mem_cons.mp h
    cases texts with
    | nil => exact htext
    | cons next texts =>
      have hcomma : IsNested ", " := by decide
      exact (htext.append hcomma).append (ih hrest)

/-! ## Members -/

theorem isNested_beanType {f : Field} (h : IsNested f.declaredType) : IsNested f.beanType := by
  have hsuffix : IsNested Name.beanSuffix := by decide
  unfold Field.beanType
  split
  · exact h.append hsuffix
  · exact h

section
variable {fields : List Field} {names : TypeNames}

theorem isNested_fromRecord (hb : IsNested names.bean) (hr : IsNested names.record)
    (hn : ∀ f ∈ fields, IsNested f.name) (ht : ∀ f ∈ fields, IsNested f.beanType) :
    IsNested (fromRecord fields names) := by
  have hvalues : IsNested (commaSeparated (fields.map recordValue)) := by
    refine isNested_commaSeparated (List.forall_mem_map.mpr fun f hf => ?_)
    unfold IsNested recordValue
    cases f.isNested <;>
      simp only [dueAfter_append, (hn f hf).due, (ht f hf).due, if_true, Bool.false_eq_true,
        if_false] <;>
      rfl
  unfold IsNested fromRecord fromRecordLines outer Member.inner inlineCode
  -- the texts that vary are passed over, and what is left is computed
  simp only [unlines, dueAfter_append, hb.due, hr.due, hvalues.due]
  rfl

theorem isNested_parameter {f : Field} (hn : IsNested f.name) (ht : IsNested f.beanType) :
    IsNested (parameter f) := by
  unfold IsNested parameter
  simp only [dueAfter_append, hn.due, ht.due]
  rfl

theorem isNested_assignment {f : Field} (h : IsNested f.name) : IsNested (assignment f) := by
  unfold IsNested assignment Member.inner
  simp only [dueAfter_append, h.due]
  rfl

theorem isNested_constructors (hb : IsNested names.bean) (hn : ∀ f ∈ fields, IsNested f.name)
    (ht : ∀ f ∈ fields, IsNested f.beanType) : IsNested (constructors fields names) := by
  have hparameters : IsNested (commaSeparated (fields.map parameter)) :=
    isNested_commaSeparated
      (List.forall_mem_map.mpr fun f hf => isNested_parameter (hn f hf) (ht f hf))
  have hassignments : IsNested (unlines (fields.map assignment)) :=
    isNested_unlines (List.forall_mem_map.mpr fun f hf => isNested_assignment (hn f hf))
  unfold IsNested constructors constructorLines nullConstructorLines canonicalConstructorLines outer
  split <;>
    simp only [unlines, unlines_append, dueAfter_append, hb.due, hparameters.due,
      hassignments.due] <;>
    rfl

theorem isNested_accessors (hb : IsNested names.bean) (hn : ∀ f ∈ fields, IsNested f.name)
    (hg : ∀ f ∈ fields, IsNested f.capName) (ht : ∀ f ∈ fields, IsNested f.beanType) :
    IsNested (accessors fields names) := by
  have hfield : ∀ f ∈ fields, IsNested (unlines (fieldLines names f)) := by
    intro f hf
    have hparameter := isNested_parameter (hn f hf) (ht f hf)
    have hassignment := isNested_assignment (hn f hf)
    unfold IsNested fieldLines getterLines setterLines storage outer Member.inner inlineCode
      Field.getter Field.setter
    simp only [unlines, unlines_append, dueAfter_append, hb.due, (hn f hf).due, (hg f hf).due,
      (ht f hf).due, hparameter.due, hassignment.due]
    rfl
  unfold accessors
  clear hn hg ht
  fun_induction accessorLines names fields with
  | case1 => rfl
  | case2 f => exact hfield f List.mem_cons_self
  | case3 f g rest ih =>
    obtain ⟨hf, hrest⟩ := List.forall_mem_cons.mp hfield
    have hfeed : IsNested ("" ++ "\n") := by decide
    rw [unlines_append]
    exact hf.append (hfeed.append (ih hrest))

theorem isNested_equality (hb : IsNested names.bean) (hn : ∀ f ∈ fields, IsNested f.name)
    (hg : ∀ f ∈ fields, IsNested f.capName) : IsNested (equality fields names) := by
  have hcomparisons : IsNested (unlines (fields.map (comparison names))) := by
    refine isNested_unlines (List.forall_mem_map.mpr fun f hf => ?_)
    unfold IsNested comparison otherName Member.inner Field.getter
    simp only [dueAfter_append, hb.due, (hn f hf).due, (hg f hf).due]
    rfl
  have hhashed : IsNested (commaSeparated (fields.map ("this." ++ ·.name))) := by
    refine isNested_commaSeparated (List.forall_mem_map.mpr fun f hf => ?_)
    unfold IsNested
    simp only [dueAfter_append, (hn f hf).due]
    rfl
  unfold IsNested equality equalsLines hashCodeLines otherName outer Member.inner
  simp only [unlines, unlines_append, dueAfter_append, hb.due, hcomparisons.due, hhashed.due]
  rfl

theorem isNested_toRecord (hr : IsNested names.record) (hg : ∀ f ∈ fields, IsNested f.capName) :
    IsNested (toRecord fields names) := by
  have hvalues : IsNested (commaSeparated (fields.map beanValue)) := by
    refine isNested_commaSeparated (List.forall_mem_map.mpr fun f hf => ?_)
    unfold IsNested beanValue Field.getter
    cases f.isNested <;>
      simp only [dueAfter_append, (hg f hf).due, if_true, Bool.false_eq_true, if_false] <;>
      rfl
  unfold IsNested toRecord toRecordLines outer Member.inner inlineCode
  simp only [unlines, dueAfter_append, hr.due, hvalues.due]
  rfl

theorem isNested_toString (hb : IsNested names.bean) (hn : ∀ f ∈ fields, IsNested f.name) :
    IsNested (Member.toString fields names) := by
  have hfield : ∀ f ∈ fields, IsNested (shownField f) := by
    intro f hf
    unfold IsNested shownField Member.inner
    simp only [dueAfter_append, (hn f hf).due]
    rfl
  have hshown : IsNested (unlines (shownFieldLines fields)) := by
    apply isNested_unlines
    clear hn
    fun_induction shownFieldLines fields with
    | case1 => simp
    | case2 f => exact List.forall_mem_singleton.mpr (hfield f List.mem_cons_self)
    | case3 f g rest ih =>
      obtain ⟨hf, hrest⟩ := List.forall_mem_cons.mp hfield
      have hseparator : IsNested " + \", \"" := by decide
      exact List.forall_mem_cons.mpr ⟨hf.append hseparator, ih hrest⟩
  unfold IsNested Member.toString toStringLines shownLines outer Member.inner
  split <;>
    simp only [unlines, unlines_append, dueAfter_append, hb.due, hshown.due] <;>
    rfl

end

/-! ## The whole source -/

/-- The texts that a source passes on as they are, each nested in itself. -/
structure HasNestedTexts (s : Schema) (header : String) : Prop where
  header : IsNested header
  qualifiedName : IsNested s.qualifiedName
  packageName : ∀ p ∈ s.packageName, IsNested p
  types : ∀ f ∈ s.fields, IsNested f.declaredType
  annotations : ∀ a ∈ s.extraAnnotations, IsNested a
  interfaces : ∀ i ∈ s.extraInterfaces, IsNested i

/-- The declaration of the class, up to its brace. -/
def declaration (s : Schema) : String :=
  printVisibility s.visibility.keyword ++ "final class " ++ s.beanName
    ++ printInterfaces s.extraInterfaces ++ " "

/-- What stands in front of the declaration. -/
def preamble (s : Schema) (header : String) : String :=
  printHeader (harmless header) ++ unlines (packageLines s.packageName)
    ++ unlines [importLine "java.util.Objects", "",
      docLine ("A mutable bean interoperable with " ++ inlineCode s.qualifiedName ++ " records.")]
    ++ unlines (s.extraAnnotations.map annotationLine)

/-- What stands between the braces of the class. -/
def classBody (s : Schema) : String :=
  "\n" ++ printMembers ((Members.of s).inOrder.filter (!·.isEmpty))

theorem source_eq {s : Schema} {header text : String} (h : renderOwn s header = .ok text) :
    text = preamble s header ++ declaration s ++ "\x7b" ++ classBody s ++ "\x7d\n" := by
  have hmembers : classBody s = "\n" ++ unlines ((shownBlocks s).flatMap ("" :: ·)) := by
    rw [classBody, filter_inOrder_of, printMembers_map_unlines]
  rw [renderOwn_eq h, hmembers]
  apply String.toList_injective
  simp [preamble, declaration, bodyLines, layoutOf, headLine, unlines]

section
variable {s : Schema} {header text : String}

theorem isNested_preamble (hn : HasNestedTexts s header) : IsNested (preamble s header) := by
  have hheader : IsNested (printHeader (harmless header)) := by
    have hcomment := isNested_commentText hn.header
    rw [printHeader_harmless]
    split
    · decide
    · unfold IsNested
      simp only [dueAfter_append, hcomment.due]
      rfl
  have hpackage : IsNested (unlines (packageLines s.packageName)) := by
    cases hp : s.packageName with
    | none => decide
    | some p =>
      have := hn.packageName p hp
      unfold IsNested packageLines
      simp only [unlines, dueAfter_append, this.due]
      rfl
  have hannotations : IsNested (unlines (s.extraAnnotations.map annotationLine)) := by
    refine isNested_unlines (List.forall_mem_map.mpr fun a ha => ?_)
    have hat : IsNested "@" := by decide
    exact hat.append (hn.annotations a ha)
  unfold IsNested preamble docLine inlineCode
  simp only [unlines, dueAfter_append, hheader.due, hpackage.due, hannotations.due,
    hn.qualifiedName.due]
  rfl

theorem isNested_beanName (hs : IsWord s.simpleName.toList) : IsNested s.beanName :=
  isNested_word (isWord_beanName hs)

theorem isNested_declaration (hn : HasNestedTexts s header) (hs : IsWord s.simpleName.toList) :
    IsNested (declaration s) := by
  have hvisibility : IsNested (printVisibility s.visibility.keyword) := by
    cases s.visibility <;> decide
  have hinterfaces : IsNested (printInterfaces s.extraInterfaces) := by
    have hlist := isNested_commaSeparated hn.interfaces
    have himplements : IsNested " implements " := by decide
    unfold printInterfaces
    split
    · decide
    · exact himplements.append hlist
  unfold IsNested declaration
  simp only [dueAfter_append, hvisibility.due, hinterfaces.due, (isNested_beanName hs).due]
  rfl

theorem isNested_members (hn : HasNestedTexts s header) (hs : IsWord s.simpleName.toList)
    (hf : ∀ f ∈ s.fields, IsWord f.name.toList) :
    ∀ m ∈ (Members.of s).inOrder, IsNested m := by
  have hbean : IsNested (TypeNames.of s).bean := isNested_beanName hs
  have hrecord : IsNested (TypeNames.of s).record := hn.qualifiedName
  have hnames : ∀ f ∈ s.fields, IsNested f.name := fun f hm => isNested_word (hf f hm)
  have hcaps : ∀ f ∈ s.fields, IsNested f.capName := fun f hm =>
    isNested_of_plain fun _ hc => isBracket_of_isWordChar (Name.isWordChar_capitalize (hf f hm) hc)
  have htypes : ∀ f ∈ s.fields, IsNested f.beanType := fun f hm => isNested_beanType (hn.types f hm)
  unfold Members.inOrder Members.of
  simp only [List.forall_mem_cons, List.not_mem_nil, false_implies, implies_true, and_true]
  exact ⟨isNested_fromRecord hbean hrecord hnames htypes, isNested_constructors hbean hnames htypes,
    isNested_equality hbean hnames hcaps, isNested_toRecord hrecord hcaps,
    isNested_toString hbean hnames, isNested_accessors hbean hnames hcaps htypes⟩

theorem isNested_printMembers {members : List String} (h : ∀ m ∈ members, IsNested m) :
    IsNested (printMembers members) := by
  induction members with
  | nil => rfl
  | cons m rest ih =>
    obtain ⟨hm, hrest⟩ := List.forall_mem_cons.mp h
    have hfeed : IsNested "\n" := by decide
    exact (hfeed.append hm).append (ih hrest)

end

/-- A member that shows is a part of the text of all members. -/
theorem exists_printMembers {members : List String} {m : String} (h : m ∈ members) :
    ∃ upper lower, printMembers members = upper ++ m ++ lower := by
  induction members with
  | nil => cases h
  | cons first rest ih =>
    rcases List.mem_cons.mp h with rfl | h
    · exact ⟨"\n", printMembers rest, rfl⟩
    · obtain ⟨upper, lower, he⟩ := ih h
      refine ⟨"\n" ++ first ++ upper, lower, ?_⟩
      rw [printMembers, he]
      simp only [String.append_assoc]

theorem exists_classBody {s : Schema} {m : String} (h : m ∈ (Members.of s).inOrder) :
    ∃ upper lower, classBody s = upper ++ m ++ lower := by
  cases he : m.isEmpty with
  | true =>
    refine ⟨classBody s, "", ?_⟩
    rw [String.isEmpty_iff.mp he, String.append_empty, String.append_empty]
  | false =>
    have hshown : m ∈ (Members.of s).inOrder.filter (!·.isEmpty) :=
      List.mem_filter.mpr ⟨h, by simp [he]⟩
    obtain ⟨upper, lower, hmembers⟩ := exists_printMembers hshown
    refine ⟨"\n" ++ upper, lower, ?_⟩
    rw [classBody, hmembers]
    simp only [String.append_assoc]

/-- A source is nested if the texts are that it passes on. The brace that opens the class is closed
by the last one, behind which there is only a line feed, and all members lie between the two. -/
theorem source_nested {s : Schema} {header text : String} (h : renderOwn s header = .ok text)
    (hn : HasNestedTexts s header) :
    IsNested text ∧ ∃ before inside : String,
      text = before ++ declaration s ++ "\x7b" ++ inside ++ "\x7d\n" ∧
      atPartner ['\x7d'] (inside ++ "\x7d\n").toList = some (inside.toList, ['\n']) ∧
      let members := Members.of s
      ∀ m ∈ [members.fromRecord, members.constructors, members.equality, members.toRecord,
        members.toString, members.accessors], IsNested m ∧
          ∃ upper lower, inside = upper ++ m ++ lower := by
  obtain ⟨hs, hf⟩ := isWord_of_renderOwn h
  have hmembers := isNested_members hn hs hf
  have hinside : IsNested (classBody s) := by
    have hfeed : IsNested "\n" := by decide
    refine hfeed.append (isNested_printMembers fun m hm => ?_)
    exact hmembers m (List.mem_of_mem_filter hm)
  refine ⟨?_, preamble s header, classBody s, source_eq h, ?_, ?_⟩
  · rw [source_eq h]
    unfold IsNested
    simp only [dueAfter_append, (isNested_preamble hn).due, (isNested_declaration hn hs).due,
      hinside.due]
    rfl
  · have hend : (classBody s ++ "\x7d\n").toList = (classBody s).toList ++ '\x7d' :: ['\n'] := by
      simp
    have hpartner := atPartner_append ['\n'] hinside
    rw [List.nil_append] at hpartner
    rw [hend]
    exact hpartner
  · intro members m hm
    have hshown : m ∈ members.inOrder := hm
    exact ⟨hmembers m hshown, exists_classBody hshown⟩

/-- A record with brackets in its texts and a nested component. -/
def tea : Schema where
  qualifiedName := "demo.Tea"
  simpleName := "Tea"
  packageName := some "demo"
  visibility := .packagePrivate
  fields := [⟨"leaf", "Leaf", true⟩, ⟨"minutes", "@Range(max = (9)) int", false⟩]
  extraAnnotations := ["SuppressWarnings(\x7b\"a\", \"b\"\x7d)"]
  extraInterfaces := ["Drink", "Hot"]

theorem tea_source_nested :
    ∃ text, renderOwn tea "(served) \x7bhot\x7d" = .ok text ∧
      HasNestedTexts tea "(served) \x7bhot\x7d" ∧ IsNested text ∧
      ∃ before inside : String,
        text = before ++ "final class TeaBean implements Drink, Hot " ++ "\x7b" ++ inside ++ "\x7d\n" ∧
        atPartner ['\x7d'] (inside ++ "\x7d\n").toList = some (inside.toList, ['\n']) := by
  obtain ⟨text, h⟩ : ∃ text, renderOwn tea "(served) \x7bhot\x7d" = .ok text :=
    exists_renderOwn_iff.mpr ⟨by decide, by decide, by decide⟩
  have hn : HasNestedTexts tea "(served) \x7bhot\x7d" := by
    refine ⟨by decide, by decide, ?_, by decide, by decide, by decide⟩
    intro p hp
    rw [← Option.some.inj hp]
    decide
  have hdeclares : declaration tea = "final class TeaBean implements Drink, Hot " := by decide
  obtain ⟨hnested, before, inside, htext, hpartner, _⟩ := source_nested h hn
  rw [hdeclares] at htext
  exact ⟨text, h, hn, hnested, before, inside, htext, hpartner⟩

end RecordBean.Nesting
