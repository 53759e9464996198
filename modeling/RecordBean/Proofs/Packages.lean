import RecordBean.Proofs.Extraction
import RecordBean.Proofs.Layout

/-! # Packages that can be declared

A file declares its package in a line of its own, and the qualified name of the record stands in the
signatures and the comments of the conversions. No check looks at the package, so all of this is as
good as the text that the package is taken from: the qualifier of the name, or for a bare name the
explicit package or the one of the settings. Where that is made of identifiers, the line declares a
package, the record is named as a type, and every comment ends where it should. -/

namespace RecordBean.Packages
open RecordBean.Text RecordBean.Name RecordBean.Extraction RecordBean.Reading RecordBean.Member
  RecordBean.SourceFile

/-- Whether a package is absent or made of identifiers with dots between them. -/
def IsDeclarable (package : Option String) : Prop := ∀ p ∈ package, IsTypeName p

instance (package : Option String) : Decidable (IsDeclarable package) :=
  inferInstanceAs (Decidable (∀ p ∈ package, IsTypeName p))

/-! ## Comments -/

/-- Split at the first end of a comment. -/
def atCommentEnd : List Char → Option (List Char × List Char)
  | [] => none
  | c :: rest =>
    if c = '*' ∧ rest.head? = some '/' then some ([], rest.tail)
    else (atCommentEnd rest).map fun (before, after) => (c :: before, after)

/-- What a doc comment shows as code. The comment ends at the first star with a slash behind it,
which has to be the end of the line, and the code ends at the first closing brace. -/
def readCode (line : List Char) : Option String := do
  let opened ← (line.dropWhile (· == ' ')).dropPrefix? "/** ".toList
  let (comment, behind) ← atCommentEnd opened
  if behind.isEmpty then
    let (_, code) ← cut '\x7b' comment
    let code ← code.dropPrefix? "@code ".toList
    let (name, _) ← cut '\x7d' code
    some (String.ofList name)
  else none

theorem atCommentEnd_append {comment : List Char} (h : '*' ∉ comment) :
    atCommentEnd (comment ++ "*/".toList) = some (comment, []) := by
  induction comment with
  | nil => rfl
  | cons c comment ih =>
    rw [List.mem_cons, not_or] at h
    obtain ⟨hc, hrest⟩ := h
    have hstar : ¬ (c = '*' ∧ (comment ++ "*/".toList).head? = some '/') := fun he => hc he.1.symm
    rw [List.cons_append, atCommentEnd, if_neg hstar, ih hrest]
    rfl

/-- The name of a type neither ends a comment nor its code. -/
theorem readCode_comment {line : List Char} {name : String} (indent before after : String)
    (hl : line = (indent ++ ("/** " ++ before ++ inlineCode name ++ after ++ "*/")).toList)
    (hi : indent = "" ∨ indent = "  ") (hb : '*' ∉ before.toList ∧ '\x7b' ∉ before.toList)
    (hn : IsTypeName name) (ha : '*' ∉ after.toList) : readCode line = some name := by
  have hopen : ((indent ++ ("/** " ++ before ++ inlineCode name ++ after ++ "*/")).toList.dropWhile
      (· == ' ')) =
        "/** ".toList ++ ((before ++ inlineCode name ++ after).toList ++ "*/".toList) := by
    rcases hi with rfl | rfl <;> simp
  have hstar : '*' ∉ (before ++ inlineCode name ++ after).toList := by
    have hname : '*' ∉ name.toList := hn.notMem (by decide) (by decide)
    simp [inlineCode, hb.1, hname, ha]
  have hcode : (before ++ inlineCode name ++ after).toList =
      before.toList ++ '\x7b' :: ("@code ".toList ++ (name.toList ++ '\x7d' :: after.toList)) := by
    simp [inlineCode]
  have hbrace : '\x7d' ∉ name.toList := hn.notMem (by decide) (by decide)
  unfold readCode
  rw [hl, hopen, dropPrefix?_append]
  simp only [Option.bind_eq_bind, Option.bind_some, atCommentEnd_append hstar, List.isEmpty_nil,
    if_true]
  rw [hcode, cut_append _ hb.2]
  simp only [Option.bind_some, dropPrefix?_append, cut_append _ hbrace, String.ofList_toList]

/-! ## Where the package comes from -/

theorem isTypeName_of_isIdentifier {name : String} (h : isIdentifier name = true) :
    IsTypeName name := by
  have hdot : '.' ∉ name.toList := (isWord_of_isIdentifier h).notMem (by decide)
  unfold IsTypeName
  rw [Path.split_of_notMem hdot, List.forall_mem_singleton]
  exact h

theorem isTypeName_qualify {p simple : String} (h : isIdentifier simple = true) :
    IsTypeName (qualify (some p) simple) ↔ IsTypeName p := by
  have hlist : (qualify (some p) simple).toList = p.toList ++ '.' :: simple.toList := by
    simp [qualify]
  have hsimple := isTypeName_of_isIdentifier h
  unfold IsTypeName at hsimple ⊢
  rw [Path.split_append hlist, List.forall_mem_append]
  exact and_iff_left hsimple

section
variable {catalog : Catalog} {settings : Settings} {h : HostType} {s : Schema}

/-- A qualified name brings its package along; a bare one is given a package. -/
theorem isDeclarable_packageName_iff (hs : extract catalog settings h = .ok s) :
    IsDeclarable s.packageName ↔
      IsDeclarable (splitQualified h.name).1 ∧
        (IsSimple h.name → IsDeclarable (h.package <|> settings.defaultPackage)) := by
  have hpackage : s.packageName = packageOf settings h := by
    rw [extract_eq_schemaOf hs]
    rfl
  rw [hpackage]
  by_cases hb : IsSimple h.name
  · have hnone : IsDeclarable (none : Option String) := by
      intro p hp
      cases hp
    rw [packageOf_of_isSimple hb, splitQualified_of_isSimple hb]
    simp only [hnone, hb, true_and, true_implies]
  · cases hd : (splitQualified h.name).1 with
    | none => exact absurd (isSimple_of_fst_eq_none hd) hb
    | some derived =>
      rw [packageOf_of_qualified (extract_eq_ok_iff.mp hs).2.1 hd]
      simp only [hb, false_implies, and_true]

/-- The record is named as a type if its package can be declared. -/
theorem isTypeName_qualifiedName (hs : extract catalog settings h = .ok s)
    (hn : isIdentifier s.simpleName = true) (hp : IsDeclarable s.packageName) :
    IsTypeName s.qualifiedName := by
  have hsimple : s.simpleName = (splitQualified h.name).2 := by
    rw [extract_eq_schemaOf hs]
    rfl
  have hname : s.qualifiedName = qualify (splitQualified h.name).1 s.simpleName := by
    rw [hsimple, qualify_splitQualified, extract_eq_schemaOf hs]
    rfl
  have hqualifier := ((isDeclarable_packageName_iff hs).mp hp).1
  rw [hname]
  cases hd : (splitQualified h.name).1 with
  | none => exact isTypeName_of_isIdentifier hn
  | some derived => exact (isTypeName_qualify hn).mpr (hqualifier derived hd)

end

/-! ## The lines of a file -/

/-- The comments in which a file names its record: above the class and above both conversions. -/
def recordComments (s : Schema) : List String := [
  docLine ("A mutable bean interoperable with " ++ inlineCode s.qualifiedName ++ " records."),
  outer ("/** Builds a bean from the given " ++ inlineCode s.qualifiedName ++ " record. */"),
  outer ("/** Builds a " ++ inlineCode s.qualifiedName ++ " record from this bean. */")]

/-- Lines in which the package is declared and the record named as it should be. -/
structure AreSound (s : Schema) (ls : List String) : Prop where
  package : ∀ p ∈ s.packageName, IsTypeName p ∧ ls.head? = some ("package " ++ p ++ ";")
  record : IsTypeName s.qualifiedName
  fromRecord : outer ("public static " ++ s.beanName ++ " fromRecord(" ++ s.qualifiedName
    ++ " record) \x7b") ∈ ls
  toRecord : outer ("public " ++ s.qualifiedName ++ " toRecord() \x7b") ∈ ls
  comments : ∀ l ∈ recordComments s, l ∈ ls ∧ readCode l.toList = some s.qualifiedName

theorem readCode_of_mem {s : Schema} (hr : IsTypeName s.qualifiedName) :
    ∀ l ∈ recordComments s, readCode l.toList = some s.qualifiedName := by
  unfold recordComments
  simp only [List.forall_mem_cons, List.not_mem_nil, false_implies, implies_true, and_true]
  refine ⟨?_, ?_, ?_⟩
  · exact readCode_comment "" "A mutable bean interoperable with " " records. "
      (by simp [docLine]) (Or.inl rfl) (by decide) hr (by decide)
  · exact readCode_comment "  " "Builds a bean from the given " " record. "
      (by simp [outer]) (Or.inr rfl) (by decide) hr (by decide)
  · exact readCode_comment "  " "Builds a " " record from this bean. "
      (by simp [outer]) (Or.inr rfl) (by decide) hr (by decide)

/-- The lines of a file whose package can be declared are sound. -/
theorem areSound_bodyLines {s : Schema} (header : String) (hp : IsDeclarable s.packageName)
    (hr : IsTypeName s.qualifiedName) :
    AreSound s ((layoutOf s header).bodyLines (shownBlocks s)) := by
  have hfirst : fromRecordLines s.fields (TypeNames.of s) ∈ shownBlocks s :=
    List.mem_filter.mpr ⟨List.mem_cons_self, rfl⟩
  have hfourth : toRecordLines s.fields (TypeNames.of s) ∈ shownBlocks s :=
    List.mem_filter.mpr ⟨by simp [memberBlocks], rfl⟩
  have hblock : ∀ b ∈ shownBlocks s, ∀ l ∈ b,
      l ∈ (layoutOf s header).bodyLines (shownBlocks s) := by
    intro b hb l hl
    have hm : l ∈ (shownBlocks s).flatMap ("" :: ·) :=
      List.mem_flatMap.mpr ⟨b, hb, List.mem_cons_of_mem "" hl⟩
    simp [bodyLines, hm]
  have hdoc : docLine ("A mutable bean interoperable with " ++ inlineCode s.qualifiedName
      ++ " records.") ∈ (layoutOf s header).bodyLines (shownBlocks s) := by
    simp [bodyLines, layoutOf]
  have hcomments : ∀ l ∈ recordComments s, l ∈ (layoutOf s header).bodyLines (shownBlocks s) := by
    unfold recordComments
    simp only [List.forall_mem_cons, List.not_mem_nil, false_implies, implies_true, and_true]
    exact ⟨hdoc, hblock _ hfirst _ List.mem_cons_self, hblock _ hfourth _ List.mem_cons_self⟩
  constructor
  · intro p hm
    refine ⟨hp p hm, ?_⟩
    have hs : (layoutOf s header).package = some p := hm
    unfold bodyLines
    rw [hs]
    rfl
  · exact hr
  · exact hblock _ hfirst _ (List.mem_cons_of_mem _ List.mem_cons_self)
  · exact hblock _ hfourth _ (List.mem_cons_of_mem _ List.mem_cons_self)
  · exact fun l hl => ⟨hcomments l hl, readCode_of_mem hr l hl⟩

/-- The package of a bean can be declared exactly if the qualifier of a qualified name can, and for
a bare name the package that is given to it. Then every line of the file is sound that declares the
package or names the record. -/
theorem package_sound_iff {catalog : Catalog} {settings : Settings} {h : HostType} {s : Schema}
    {header text : String} (hs : extract catalog settings h = .ok s)
    (hr : renderOwn s header = .ok text) :
    (IsDeclarable s.packageName ↔
      IsDeclarable (splitQualified h.name).1 ∧
        (IsSimple h.name → IsDeclarable (h.package <|> settings.defaultPackage))) ∧
    (IsDeclarable s.packageName →
      ∃ ls, text = printHeader (harmless header) ++ unlines ls ∧ AreSound s ls) := by
  have hn : isIdentifier s.simpleName = true := (exists_renderOwn_iff.mp ⟨text, hr⟩).1
  refine ⟨isDeclarable_packageName_iff hs, fun hp => ⟨_, renderOwn_eq hr, ?_⟩⟩
  exact areSound_bodyLines header hp (isTypeName_qualifiedName hs hn hp)

/-- A record with a package in its name. -/
def order : HostType :=
  ⟨"demo.shop.Order", .record, [], none, some .plain, [⟨"id", "int"⟩]⟩

/-- A bare record. -/
def item : HostType := ⟨"Item", .record, [], none, some .plain, []⟩

def orderly : Catalog where
  types := [order, item]
  distinct := by decide

/-- Settings that give bare records the package of the other one. -/
def shop : Settings := { Settings.default with defaultPackage := some "demo.shop" }

/-- Both records get sound files, in one package. -/
theorem orderly_sound :
    ∃ s u source other, extract orderly shop order = .ok s ∧ extract orderly shop item = .ok u ∧
      renderOwn s defaultHeader = .ok source ∧ renderOwn u defaultHeader = .ok other ∧
      s.packageName = some "demo.shop" ∧ u.packageName = some "demo.shop" ∧
      (∃ ls, source = printHeader (harmless defaultHeader) ++ unlines ls ∧ AreSound s ls) ∧
      ∃ ls, other = printHeader (harmless defaultHeader) ++ unlines ls ∧ AreSound u ls := by
  have horder : extract orderly shop order = .ok (schemaOf orderly shop order) := rfl
  have hitem : extract orderly shop item = .ok (schemaOf orderly shop item) := rfl
  obtain ⟨source, hsource⟩ :
      ∃ source, renderOwn (schemaOf orderly shop order) defaultHeader = .ok source :=
    exists_renderOwn_iff.mpr ⟨by decide, by decide, by decide⟩
  obtain ⟨other, hother⟩ :
      ∃ other, renderOwn (schemaOf orderly shop item) defaultHeader = .ok other :=
    exists_renderOwn_iff.mpr ⟨by decide, by decide, by decide⟩
  refine ⟨_, _, source, other, horder, hitem, hsource, hother, rfl, rfl, ?_, ?_⟩
  · exact (package_sound_iff horder hsource).2 (by decide)
  · exact (package_sound_iff hitem hother).2 (by decide)

/-- A marked record that is put into a package with a digit in front. -/
def misplaced : Catalog where
  types := [⟨"B", .record, [], some "1x", some .plain, []⟩]
  distinct := by decide

/-- The bean is written, into a package that cannot be declared. -/
theorem misplaced_not_declarable :
    ∃ h ∈ misplaced.eligible, ∃ s text, extract misplaced .default h = .ok s ∧
      renderOwn s Settings.default.header = .ok text ∧ s.packageName = some "1x" ∧
      ¬ IsDeclarable s.packageName := by
  refine ⟨_, List.mem_cons_self, _, _, rfl, rfl, rfl, by decide⟩

end RecordBean.Packages
