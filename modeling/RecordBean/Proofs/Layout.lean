import RecordBean.Proofs.Reading.Storage
import RecordBean.Proofs.Rendering

/-! # The lines of a source file

A printed file is a header and a list of lines, which can be written down for a schema without
printing anything. A member is a block of lines with an empty line in front; a member without lines
does not show at all. No line breaks apart as long as none of the texts does that a schema passes
on as they are. -/

namespace RecordBean.SourceFile
open RecordBean.Text RecordBean.Member RecordBean.Reading

def packageLines : Option String → List String
  | some p => ["package " ++ p ++ ";", ""]
  | none => []

def importLine (name : String) : String := "import " ++ name ++ ";"

def docLine (doc : String) : String := "/** " ++ doc ++ " */"

def annotationLine (behindAt : String) : String := "@" ++ behindAt

/-- The line that opens the class. -/
def headLine (visibility : Option String) (className : String) (interfaces : List String) :
    String :=
  printVisibility visibility ++ "final class " ++ className ++ printInterfaces interfaces ++ " \x7b"

/-- All lines below the header, given the lines of every member. -/
def bodyLines (f : SourceFile) (blocks : List (List String)) : List String :=
  packageLines f.package ++ (f.imports.map importLine ++ "" :: docLine f.doc ::
    (f.annotations.map annotationLine ++ headLine f.visibility f.className f.interfaces ::
      (blocks.flatMap ("" :: ·) ++ ["\x7d"])))

/-! ## Printing by lines -/

theorem printMembers_map_unlines (blocks : List (List String)) :
    printMembers (blocks.map unlines) = unlines (blocks.flatMap ("" :: ·)) := by
  induction blocks with
  | nil => rfl
  | cons b rest ih =>
    rw [List.map_cons, printMembers, ih, List.flatMap_cons, unlines_append, unlines,
      String.empty_append]

theorem printPackage_eq (package : Option String) :
    printPackage package = unlines (packageLines package) := by
  cases package with
  | none => rfl
  | some p =>
    apply String.toList_injective
    simp [printPackage, packageLines, unlines]

theorem printClassHead_eq (f : SourceFile) :
    printClassHead f = headLine f.visibility f.className f.interfaces ++ "\n" := by
  apply String.toList_injective
  simp [printClassHead, headLine]

theorem printBody_eq {f : SourceFile} {blocks : List (List String)}
    (h : f.members = blocks.map unlines) : printBody f = unlines (f.bodyLines blocks) := by
  have himports : f.imports.map ("import " ++ · ++ ";") = f.imports.map importLine := rfl
  have hannotations : f.annotations.map ("@" ++ ·) = f.annotations.map annotationLine := rfl
  unfold printBody bodyLines
  rw [h, printPackage_eq, printClassHead_eq, printMembers_map_unlines, himports, hannotations]
  apply String.toList_injective
  simp [unlines, docLine]

/-! ## The file of a schema -/

/-- The members of a bean as blocks of lines, in the order of the class body. -/
def memberBlocks (s : Schema) : List (List String) :=
  let names := TypeNames.of s
  [fromRecordLines s.fields names, constructorLines s.fields names,
    equalsLines s.fields names ++ "" :: hashCodeLines s.fields, toRecordLines s.fields names,
    toStringLines s.fields names, accessorLines names s.fields]

theorem inOrder_of (s : Schema) : (Members.of s).inOrder = (memberBlocks s).map unlines := by
  unfold Members.inOrder Members.of memberBlocks fromRecord constructors equality toRecord
    Member.toString accessors
  simp only [List.map_cons, List.map_nil]

theorem isEmpty_unlines (ls : List String) : (unlines ls).isEmpty = ls.isEmpty := by
  cases ls with
  | nil => rfl
  | cons l ls =>
    have hne : unlines (l :: ls) ≠ "" := by
      intro he
      have := congrArg String.toList he
      simp [unlines] at this
    rw [List.isEmpty_cons, Bool.eq_false_iff, Ne, String.isEmpty_iff]
    exact hne

/-- The blocks that show. -/
def shownBlocks (s : Schema) : List (List String) := (memberBlocks s).filter (!·.isEmpty)

theorem filter_inOrder_of (s : Schema) :
    (Members.of s).inOrder.filter (!·.isEmpty) = (shownBlocks s).map unlines := by
  rw [inOrder_of, List.filter_map]
  congr 1
  refine List.filter_congr fun b _ => ?_
  rw [Function.comp_apply, isEmpty_unlines]

/-- A reader of lines passes over the empty lines between members, and a member without lines shows
it nothing either. -/
theorem filterMap_blocks {α : Type} {read : List Char → Option α} (h : read "".toList = none)
    (blocks : List (List String)) :
    (((blocks.filter (!·.isEmpty)).flatMap ("" :: ·)).map String.toList).filterMap read =
      blocks.flatMap fun b => (b.map String.toList).filterMap read := by
  induction blocks with
  | nil => rfl
  | cons b rest ih =>
    cases b with
    | nil =>
      rw [List.filter_cons_of_neg (by simp), ih]
      rfl
    | cons l ls =>
      rw [List.filter_cons_of_pos (by simp), List.flatMap_cons, List.map_append,
        List.filterMap_append, ih, List.map_cons, List.filterMap_cons_none h, List.flatMap_cons]

/-- The layout of a schema's file. -/
def layoutOf (s : Schema) (header : String) : SourceFile where
  header := harmless header
  package := s.packageName
  imports := ["java.util.Objects"]
  doc := "A mutable bean interoperable with " ++ inlineCode s.qualifiedName ++ " records."
  annotations := s.extraAnnotations
  visibility := s.visibility.keyword
  className := s.beanName
  interfaces := s.extraInterfaces
  members := (Members.of s).inOrder.filter (!·.isEmpty)

theorem assemble_of (s : Schema) (header : String) :
    assemble s (Members.of s) header =
      (check s (Members.of s)).map fun _ => layoutOf s header := by
  unfold assemble
  cases check s (Members.of s) with
  | error e => rfl
  | ok => rfl

/-- A file that is rendered consists of the header and of these lines. -/
theorem renderOwn_eq {s : Schema} {header text : String} (h : renderOwn s header = .ok text) :
    text = printHeader (harmless header) ++
      unlines ((layoutOf s header).bodyLines (shownBlocks s)) := by
  unfold renderOwn render at h
  rw [assemble_of] at h
  cases hc : check s (Members.of s) with
  | error e =>
    rw [hc] at h
    cases h
  | ok =>
    rw [hc] at h
    rw [← printBody_eq (f := layoutOf s header) (filter_inOrder_of s)]
    exact (Except.ok.inj h).symm

/-- The names in a file are words: that of the class and those of its fields. -/
theorem isWord_of_renderOwn {s : Schema} {header text : String} (h : renderOwn s header = .ok text) :
    IsWord s.simpleName.toList ∧ ∀ f ∈ s.fields, IsWord f.name.toList := by
  obtain ⟨hsimple, hnamed⟩ := exists_renderOwn_iff.mp ⟨text, h⟩
  exact ⟨Name.isWord_of_isIdentifier hsimple,
    fun f hf => Name.isWord_of_isIdentifier (hnamed.identifiers f hf)⟩

/-! ## Lines that stay whole -/

/-- The texts that a schema passes on verbatim each stand on one line. -/
structure IsOneLine (s : Schema) : Prop where
  qualifiedName : '\n' ∉ s.qualifiedName.toList
  packageName : ∀ p, s.packageName = some p → '\n' ∉ p.toList
  types : ∀ f ∈ s.fields, '\n' ∉ f.declaredType.toList
  annotations : ∀ a ∈ s.extraAnnotations, '\n' ∉ a.toList
  interfaces : ∀ i ∈ s.extraInterfaces, '\n' ∉ i.toList

theorem oneLine_beanType {f : Field} (h : '\n' ∉ f.declaredType.toList) :
    '\n' ∉ f.beanType.toList := by
  unfold Field.beanType
  split
  · rw [Name.companion, String.toList_append, List.mem_append, not_or]
    exact ⟨h, by decide⟩
  · exact h

section
variable {fields : List Field} {names : TypeNames}

theorem oneLine_fromRecordLines (hb : '\n' ∉ names.bean.toList)
    (hr : '\n' ∉ names.record.toList) (hn : ∀ f ∈ fields, IsWord f.name.toList)
    (ht : ∀ f ∈ fields, '\n' ∉ f.beanType.toList) :
    ∀ l ∈ fromRecordLines fields names, '\n' ∉ l.toList := by
  have hvalues : '\n' ∉ (commaSeparated (fields.map recordValue)).toList := by
    apply notMem_commaSeparated (by decide)
    rw [List.forall_mem_map]
    intro f hf
    have hname : '\n' ∉ f.name.toList := (hn f hf).notMem (by decide)
    unfold recordValue
    cases f.isNested <;> simp [hname, ht f hf]
  simp [fromRecordLines, outer, Member.inner, close, inlineCode, hb, hr, hvalues]

theorem oneLine_toRecordLines (hr : '\n' ∉ names.record.toList)
    (hn : ∀ f ∈ fields, IsWord f.name.toList) :
    ∀ l ∈ toRecordLines fields names, '\n' ∉ l.toList := by
  have hvalues : '\n' ∉ (commaSeparated (fields.map beanValue)).toList := by
    apply notMem_commaSeparated (by decide)
    rw [List.forall_mem_map]
    intro f hf
    have hgetter : '\n' ∉ f.getter.toList := (isWord_getter (hn f hf)).notMem (by decide)
    unfold beanValue
    cases f.isNested <;> simp [hgetter]
  simp [toRecordLines, outer, Member.inner, close, inlineCode, hr, hvalues]

theorem oneLine_equality (hb : '\n' ∉ names.bean.toList)
    (hn : ∀ f ∈ fields, IsWord f.name.toList) :
    ∀ l ∈ equalsLines fields names ++ "" :: hashCodeLines fields, '\n' ∉ l.toList := by
  have hname : ∀ f ∈ fields, '\n' ∉ f.name.toList := fun f hf => (hn f hf).notMem (by decide)
  have hcomparison : ∀ f ∈ fields, '\n' ∉ (comparison names f).toList := by
    intro f hf
    have hgetter : '\n' ∉ f.getter.toList := (isWord_getter (hn f hf)).notMem (by decide)
    simp [comparison, Member.inner, otherName, hname f hf, hgetter, hb]
  have hhashed : '\n' ∉ (commaSeparated (fields.map ("this." ++ ·.name))).toList := by
    apply notMem_commaSeparated (by decide)
    rw [List.forall_mem_map]
    intro f hf
    simp [hname f hf]
  simp only [equalsLines, hashCodeLines, List.forall_mem_append, List.forall_mem_cons,
    List.forall_mem_map, List.not_mem_nil, false_implies, implies_true, and_true]
  refine ⟨⟨⟨⟨by decide, by decide, by decide, ?_⟩, hcomparison⟩, by decide, by decide⟩,
    by decide, by decide, by decide, ?_, by decide⟩
  · simp [Member.inner, otherName, hb]
  · simp [Member.inner, hhashed]

theorem oneLine_toStringLines (hb : '\n' ∉ names.bean.toList)
    (hn : ∀ f ∈ fields, IsWord f.name.toList) :
    ∀ l ∈ toStringLines fields names, '\n' ∉ l.toList := by
  have hshown : ∀ l ∈ shownFieldLines fields, '\n' ∉ l.toList := by
    have hfield : ∀ f ∈ fields, '\n' ∉ (shownField f).toList := by
      intro f hf
      have hname : '\n' ∉ f.name.toList := (hn f hf).notMem (by decide)
      simp [shownField, Member.inner, hname]
    clear hn
    fun_induction shownFieldLines fields with
    | case1 => simp
    | case2 f => simpa using hfield f
    | case3 f g rest ih =>
      rw [List.forall_mem_cons] at hfield
      rw [List.forall_mem_cons]
      refine ⟨?_, ih hfield.2⟩
      simp [hfield.1]
  have hlines : ∀ l ∈ shownLines fields names, '\n' ∉ l.toList := by
    unfold shownLines
    split
    · simp [Member.inner, hb]
    · simp only [List.forall_mem_append, List.forall_mem_cons, List.not_mem_nil, false_implies,
        implies_true, and_true]
      refine ⟨⟨?_, hshown⟩, by decide⟩
      simp [Member.inner, hb]
  simp only [toStringLines, List.forall_mem_append, List.forall_mem_cons, List.not_mem_nil,
    false_implies, implies_true, and_true]
  exact ⟨⟨⟨by decide, by decide⟩, hlines⟩, by decide⟩

end

theorem isWord_beanName {s : Schema} (h : IsWord s.simpleName.toList) : IsWord s.beanName.toList := by
  unfold Schema.beanName Name.companion
  rw [String.toList_append]
  exact h.append fun _ => Name.isWordChar_beanSuffix

theorem notMem_beanName {s : Schema} (h : IsWord s.simpleName.toList) {c : Char}
    (hw : isWordChar c = false) : c ∉ s.beanName.toList := (isWord_beanName h).notMem hw

theorem IsOneLine.memberBlocks {s : Schema} (h : IsOneLine s) (hs : IsWord s.simpleName.toList)
    (hn : ∀ f ∈ s.fields, IsWord f.name.toList) :
    ∀ b ∈ memberBlocks s, ∀ l ∈ b, '\n' ∉ l.toList := by
  have hb : '\n' ∉ (TypeNames.of s).bean.toList := notMem_beanName hs (by decide)
  have hr : '\n' ∉ (TypeNames.of s).record.toList := h.qualifiedName
  have ht : ∀ f ∈ s.fields, '\n' ∉ f.beanType.toList := fun f hf => oneLine_beanType (h.types f hf)
  have haccess : ∀ l ∈ accessorLines (TypeNames.of s) s.fields, '\n' ∉ l.toList :=
    oneLine_accessorLines fun f hf => oneLine_fieldLines hb (ht f hf) (hn f hf)
      fun c hc => Name.isWordChar_capitalize (hn f hf) hc
  unfold SourceFile.memberBlocks
  simp only [List.forall_mem_cons, List.not_mem_nil, false_implies, implies_true, and_true]
  exact ⟨oneLine_fromRecordLines hb hr hn ht, oneLine_constructorLines hb hn ht,
    oneLine_equality hb hn, oneLine_toRecordLines hr hn, oneLine_toStringLines hb hn, haccess⟩

/-- Every line of a file is one line. -/
theorem IsOneLine.bodyLines {s : Schema} (h : IsOneLine s) (hs : IsWord s.simpleName.toList)
    (hn : ∀ f ∈ s.fields, IsWord f.name.toList) (header : String) :
    ∀ l ∈ (layoutOf s header).bodyLines (shownBlocks s), '\n' ∉ l.toList := by
  have hpackage : ∀ l ∈ packageLines s.packageName, '\n' ∉ l.toList := by
    cases hp : s.packageName with
    | none => simp [packageLines]
    | some p =>
      have := h.packageName p hp
      simp [packageLines, this]
  have hannotations : ∀ a ∈ s.extraAnnotations, '\n' ∉ (annotationLine a).toList := by
    intro a ha
    simp [annotationLine, h.annotations a ha]
  have hhead : '\n' ∉ (headLine s.visibility.keyword s.beanName s.extraInterfaces).toList := by
    have hb : '\n' ∉ s.beanName.toList := notMem_beanName hs (by decide)
    have hv : '\n' ∉ (printVisibility s.visibility.keyword).toList := by
      cases s.visibility <;> decide
    have hi : '\n' ∉ (printInterfaces s.extraInterfaces).toList := by
      have hlist := notMem_commaSeparated (c := '\n') (by decide) h.interfaces
      unfold printInterfaces
      split
      · decide
      · simp [hlist]
    simp [headLine, hb, hv, hi]
  have hblocks : ∀ l ∈ (shownBlocks s).flatMap ("" :: ·), '\n' ∉ l.toList := by
    intro l hl
    obtain ⟨b, hb, hl⟩ := List.mem_flatMap.mp hl
    rcases List.mem_cons.mp hl with rfl | hl
    · decide
    · exact h.memberBlocks hs hn b (List.mem_of_mem_filter hb) l hl
  have hdoc : '\n' ∉ (docLine (layoutOf s header).doc).toList := by
    simp [docLine, layoutOf, inlineCode, h.qualifiedName]
  unfold SourceFile.bodyLines
  simp only [List.forall_mem_append, List.forall_mem_cons, List.forall_mem_map, List.not_mem_nil,
    false_implies, implies_true, and_true]
  refine ⟨hpackage, ?_, by decide, hdoc, hannotations, hhead, hblocks, by decide⟩
  simp [layoutOf, importLine]

end RecordBean.SourceFile
