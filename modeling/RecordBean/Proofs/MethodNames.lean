import RecordBean.Proofs.Methods

/-! # The methods of a bean are apart

A bean declares five methods of its own and an accessor pair for every field. No two of them share a
name: the suffixes of accepted fields differ, and no accessor begins like one of the five. What a
class inherits is another matter. Among the final methods that every object has there is one getter,
and a field gets the same getter exactly if it is called `class` in some other letter case, which is
an identifier though the word itself is not. -/

namespace RecordBean.MethodNames
open RecordBean.Text RecordBean.Reading RecordBean.SourceFile RecordBean.Member RecordBean.Recovery
  RecordBean.Methods

/-- The methods of every bean. -/
def commonMethods : List String := ["fromRecord", "equals", "hashCode", "toRecord", "toString"]

/-- The methods of a bean in the order of the class body. -/
def methodNames (s : Schema) : List String :=
  commonMethods ++ s.fields.flatMap fun f => [f.getter, f.setter]

/-- The final methods without parameters that a class inherits from the class of all objects. -/
def finalMethods : List String := ["getClass", "notify", "notifyAll", "wait"]

/-! ## Suffixes that spell `Class` -/

/-- Whether a character does not occur in `Class`. -/
def isForeign (c : Char) : Bool := !"Class".toList.contains c

theorem isForeign_of_le {c : Char} (h : 128 ≤ c.toNat) : isForeign c = true := by
  have hascii : ∀ d ∈ "Class".toList, d.toNat < 128 := by simp
  unfold isForeign
  rw [Bool.not_eq_true', Bool.eq_false_iff, Ne, List.contains_iff_mem]
  intro hc
  have := hascii c hc
  omega

/-- No letter of `Class` is the upper case of a character beyond ASCII. -/
theorem isForeign_toUpper {c d : Char} (hc : 128 ≤ c.toNat) (hd : d ∈ toUpper c) :
    isForeign d = true := by
  rw [toUpper, if_neg (by omega)] at hd
  exact of_mem_mapCase (fun _ => isForeign_of_le)
    (by decide +kernel : ∀ e ∈ upperExpansions, ∀ code ∈ e.2, isForeign (Char.ofNat code) = true)
    (by decide +kernel : ∀ r ∈ upperRuns, r.keeps isForeign = true) (isForeign_of_le hc) hd

/-- Nor is one the lower case of such a character. -/
theorem isForeign_toLower {c d : Char} (hc : 128 ≤ c.toNat) (hd : d ∈ toLower c) :
    isForeign d = true := by
  rw [toLower, if_neg (by omega)] at hd
  exact of_mem_mapCase (fun _ => isForeign_of_le)
    (by decide +kernel : ∀ e ∈ lowerExpansions, ∀ code ∈ e.2, isForeign (Char.ofNat code) = true)
    (by decide +kernel : ∀ r ∈ lowerRuns, r.keeps isForeign = true) (isForeign_of_le hc) hd

/-- A suffix without foreign characters comes from an ASCII name. -/
theorem ascii_of_capitalizeChars {cs : List Char}
    (h : ∀ d ∈ Name.capitalizeChars cs, isForeign d = false) : ∀ c ∈ cs, c.toNat < 128 := by
  intro c hc
  by_contra hlarge
  have hbeyond : 128 ≤ c.toNat := by omega
  obtain ⟨d, hd, hf⟩ : ∃ d ∈ Name.capitalizeChars cs, isForeign d = true := by
    cases cs with
    | nil => cases hc
    | cons first rest =>
      rcases List.mem_cons.mp hc with rfl | hc
      · obtain ⟨d, hd⟩ := List.exists_mem_of_ne_nil _ (toUpper_ne_nil c)
        exact ⟨d, List.mem_append_left _ hd, isForeign_toUpper hbeyond hd⟩
      · obtain ⟨d, hd⟩ := List.exists_mem_of_ne_nil _ (toLower_ne_nil c)
        exact ⟨d, List.mem_append_right _ (List.mem_flatMap.mpr ⟨c, hc, hd⟩),
          isForeign_toLower hbeyond hd⟩
  rw [h d hd] at hf
  cases hf

theorem capitalizeChars_ascii {c : Char} {rest : List Char} (h : ∀ d ∈ c :: rest, d.toNat < 128) :
    Name.capitalizeChars (c :: rest) = c.toUpper :: rest.map Char.toLower := by
  obtain ⟨hc, hrest⟩ := List.forall_mem_cons.mp h
  have hlower : rest.flatMap toLower = rest.map Char.toLower := by
    rw [List.map_eq_flatMap]
    exact List.flatMap_congr fun d hd => toLower_ascii (hrest d hd)
  rw [Name.capitalizeChars, toUpper_ascii hc, hlower, List.singleton_append]

/-- Lower case in the sense of ASCII leads from ASCII characters only to ASCII characters. -/
theorem ascii_of_toLower {c : Char} (h : c.toLower.toNat < 128) : c.toNat < 128 := by
  by_contra hlarge
  have hupper : ¬ (c.val ≥ 'A'.val ∧ c.val ≤ 'Z'.val) := by
    rintro ⟨_, hle⟩
    have : c.toNat ≤ 90 := hle
    omega
  have hsame : c.toLower = c := dif_neg hupper
  rw [hsame] at h
  exact hlarge h

theorem toUpper_eq_iff_ascii {c : Char} (h : c.toNat < 128) : c.toUpper = 'C' ↔ c.toLower = 'c' :=
  of_ascii (p := fun c => c.toUpper = 'C' ↔ c.toLower = 'c') (by decide) h

/-- The suffix `Class` comes from the names that spell the word `class`, in any letter case. -/
theorem capName_eq_iff {f : Field} :
    f.capName = "Class" ↔ f.name.toList.map Char.toLower = "class".toList := by
  have hlist : f.capName = "Class" ↔ Name.capitalizeChars f.name.toList = "Class".toList := by
    unfold Field.capName Name.capitalize
    rw [← String.toList_inj, String.toList_ofList]
  have hclass : "Class".toList = 'C' :: "lass".toList := rfl
  have hword : "class".toList = 'c' :: "lass".toList := rfl
  have hknown : ∀ d ∈ "Class".toList, isForeign d = false := by simp [isForeign]
  have hlow : ∀ d ∈ "class".toList, d.toNat < 128 := by simp
  rw [hlist]
  cases f.name.toList with
  | nil => exact iff_of_false (by decide) (by decide)
  | cons c rest =>
    constructor
    · intro he
      have hascii := ascii_of_capitalizeChars (he ▸ hknown)
      rw [capitalizeChars_ascii hascii, hclass, List.cons_eq_cons] at he
      obtain ⟨hc, hrest⟩ := he
      rw [List.map_cons, hword, hrest, (toUpper_eq_iff_ascii (hascii c List.mem_cons_self)).mp hc]
    · intro he
      have hascii : ∀ d ∈ c :: rest, d.toNat < 128 := by
        intro d hd
        exact ascii_of_toLower (hlow _ (he ▸ List.mem_map_of_mem hd))
      rw [List.map_cons, hword, List.cons_eq_cons] at he
      obtain ⟨hc, hrest⟩ := he
      rw [capitalizeChars_ascii hascii, hclass, hrest,
        (toUpper_eq_iff_ascii (hascii c List.mem_cons_self)).mpr hc]

/-- A getter has the name of an inherited final method exactly if the suffix is `Class`. -/
theorem getter_mem_finalMethods {f : Field} : f.getter ∈ finalMethods ↔ f.capName = "Class" := by
  have hclass : f.getter = "getClass" ↔ f.capName = "Class" := by
    have : "getClass" = "get" ++ "Class" := rfl
    rw [this, Field.getter, ← String.toList_inj, String.toList_append, String.toList_append,
      List.append_cancel_left_eq, String.toList_inj]
  have hothers : f.getter ∉ ["notify", "notifyAll", "wait"] := by
    have hstart : ∀ name ∈ ["notify", "notifyAll", "wait"], name.toList.head? ≠ some 'g' := by
      decide
    intro hm
    refine hstart _ hm ?_
    rw [Field.getter, String.toList_append]
    rfl
  unfold finalMethods
  rw [List.mem_cons, hclass]
  exact or_iff_left hothers

/-! ## Distinct names -/

theorem nodup_methodNames {s : Schema} (h : AreNamed s.fields) : (methodNames s).Nodup := by
  have hcommon : ∀ name ∈ commonMethods, name.toList.head? ≠ some 'g' ∧
      name.toList.head? ≠ some 's' := by
    decide
  have hdisjoint : ∀ name ∈ commonMethods, ∀ other ∈ s.fields.flatMap fun f => [f.getter, f.setter],
      name ≠ other := by
    rintro name hname other hother rfl
    obtain ⟨hg, hs⟩ := hcommon name hname
    obtain ⟨f, _, hf⟩ := List.mem_flatMap.mp hother
    simp only [List.mem_cons, List.not_mem_nil, or_false] at hf
    rcases hf with rfl | rfl
    · exact hg (by simp [Field.getter])
    · exact hs (by simp [Field.setter])
  unfold methodNames
  exact List.nodup_append.mpr ⟨by decide, h.nodup_accessors, hdisjoint⟩

/-! ## The methods of a file -/

section
variable {fields : List Field} {names : TypeNames}

theorem headings_fromRecordLines (hb : '(' ∉ names.bean.toList) :
    headings ((fromRecordLines fields names).map String.toList) =
      [⟨"fromRecord", some "record"⟩] := by
  have hcomment : readHeading (outer ("/** Builds a bean from the given "
      ++ inlineCode names.record ++ " record. */")).toList = none := readHeading_outer (by simp)
  have hbefore : '(' ∉ ("static " ++ names.bean).toList := by
    simp [hb]
  have hline : "public static " ++ names.bean ++ " fromRecord(" ++ names.record ++ " record) \x7b" =
      "public " ++ ("static " ++ names.bean) ++ " " ++ "fromRecord" ++ "(" ++ names.record ++ " "
        ++ "record" ++ ") \x7b" := by
    apply String.toList_injective
    simp
  have hopen : readHeading (outer ("public static " ++ names.bean ++ " fromRecord(" ++ names.record
      ++ " record) \x7b")).toList = some ⟨"fromRecord", some "record"⟩ := by
    rw [hline]
    exact readHeading_parameter names.record hbefore (by decide) (by decide)
  unfold headings fromRecordLines
  simp only [List.map_cons, List.map_nil, List.filterMap_cons, List.filterMap_nil, hcomment, hopen,
    readHeading_inner, readHeading_close]

theorem exists_commaSeparated_parameter (hne : fields ≠ []) :
    ∃ opened, ∃ f ∈ fields, commaSeparated (fields.map parameter) = opened ++ f.name := by
  unfold commaSeparated
  induction fields with
  | nil => exact absurd rfl hne
  | cons f rest ih =>
    cases rest with
    | nil => exact ⟨f.beanType ++ " ", f, List.mem_cons_self, rfl⟩
    | cons g rest =>
      obtain ⟨opened, k, hk, he⟩ := ih (List.cons_ne_nil g rest)
      refine ⟨parameter f ++ ", " ++ opened, k, List.mem_cons_of_mem f hk, ?_⟩
      rw [List.map_cons, List.map_cons, joined, ← List.map_cons, he, String.append_assoc,
        String.append_assoc, String.append_assoc]

theorem headings_constructorLines (hb : ' ' ∉ names.bean.toList) (hp : '(' ∉ names.bean.toList)
    (hn : ∀ f ∈ fields, IsWord f.name.toList) :
    headings ((constructorLines fields names).map String.toList) = [] := by
  have hnull : ∀ l ∈ nullConstructorLines names, readHeading l.toList = none := by
    simp only [nullConstructorLines, List.forall_mem_cons, List.not_mem_nil, false_implies,
      implies_true, and_true]
    exact ⟨readHeading_outer (by decide), readHeading_nullConstructor names.bean⟩
  apply headings_of_none
  unfold constructorLines
  split
  · exact hnull
  · rename_i hne
    have hfields : fields ≠ [] := by
      rintro rfl
      exact hne rfl
    obtain ⟨opened, f, hf, he⟩ := exists_commaSeparated_parameter hfields
    have hcanonical :
        ∀ l ∈ canonicalConstructorLines fields names, readHeading l.toList = none := by
      simp only [canonicalConstructorLines, List.forall_mem_append, List.forall_mem_cons,
        List.forall_mem_map, List.not_mem_nil, false_implies, implies_true, and_true, he]
      exact ⟨⟨⟨readHeading_outer (by decide), readHeading_constructor opened hb hp (hn f hf)⟩,
        fun g _ => readHeading_inner _⟩, rfl⟩
    simp only [List.forall_mem_append, List.forall_mem_cons]
    exact ⟨hnull, rfl, hcanonical⟩

theorem headings_equality :
    headings ((equalsLines fields names ++ "" :: hashCodeLines fields).map String.toList) =
      [⟨"equals", some "other"⟩, ⟨"hashCode", none⟩] := by
  have hcomparisons : headings ((fields.map (comparison names)).map String.toList) = [] := by
    apply headings_of_none
    rw [List.forall_mem_map]
    exact fun f _ => readHeading_inner _
  have hequals : readHeading (outer "public boolean equals(Object other) \x7b").toList =
      some ⟨"equals", some "other"⟩ := rfl
  have hhash : readHeading (outer "public int hashCode() \x7b").toList =
      some ⟨"hashCode", none⟩ := rfl
  have hoverride : readHeading (outer "@Override").toList = none := rfl
  unfold headings at hcomparisons
  unfold headings equalsLines hashCodeLines
  simp only [List.map_append, List.filterMap_append, hcomparisons, List.map_cons, List.map_nil,
    List.filterMap_cons, List.filterMap_nil, hequals, hhash, hoverride, readHeading_empty, readHeading_close,
    readHeading_inner, List.nil_append, List.append_nil, List.cons_append]

theorem headings_toRecordLines :
    headings ((toRecordLines fields names).map String.toList) = [⟨"toRecord", none⟩] := by
  have hcomment : readHeading
      (outer ("/** Builds a " ++ inlineCode names.record ++ " record from this bean. */")).toList =
      none := readHeading_outer (by simp)
  have hline : "public " ++ names.record ++ " toRecord() \x7b" =
      "public " ++ names.record ++ " " ++ "toRecord" ++ "() \x7b" := by
    apply String.toList_injective
    simp
  have hopen : readHeading (outer ("public " ++ names.record ++ " toRecord() \x7b")).toList =
      some ⟨"toRecord", none⟩ := by
    rw [hline]
    exact readHeading_plain names.record (by decide)
  unfold headings toRecordLines
  simp only [List.map_cons, List.map_nil, List.filterMap_cons, List.filterMap_nil, hcomment, hopen,
    readHeading_inner, readHeading_close]

theorem headings_toStringLines :
    headings ((toStringLines fields names).map String.toList) = [⟨"toString", none⟩] := by
  have hshown : headings ((shownLines fields names).map String.toList) = [] := by
    apply headings_of_none
    have hfields : ∀ l ∈ shownFieldLines fields, readHeading l.toList = none := by
      have hfield (f : Field) (rest : String) :
          readHeading (shownField f ++ rest).toList = none := by
        unfold shownField Member.inner
        rw [String.append_assoc]
        exact readHeading_inner _
      fun_induction shownFieldLines fields with
      | case1 => simp
      | case2 f =>
        intro l hl
        rw [List.mem_singleton.mp hl]
        exact readHeading_inner _
      | case3 f g rest ih =>
        rw [List.forall_mem_cons]
        exact ⟨hfield f _, ih⟩
    unfold shownLines
    split
    · simp only [List.forall_mem_cons, List.not_mem_nil, false_implies, implies_true, and_true]
      exact readHeading_inner _
    · simp only [List.forall_mem_append, List.forall_mem_cons, List.not_mem_nil, false_implies,
        implies_true, and_true]
      exact ⟨⟨readHeading_inner _, hfields⟩, readHeading_inner _⟩
  have hopen : readHeading (outer "public String toString() \x7b").toList =
      some ⟨"toString", none⟩ := rfl
  have hoverride : readHeading (outer "@Override").toList = none := rfl
  unfold headings at hshown
  unfold headings toStringLines
  simp only [List.map_append, List.filterMap_append, hshown, List.map_cons, List.map_nil,
    List.filterMap_cons, List.filterMap_nil, hopen, hoverride, readHeading_close, List.append_nil]

end

/-- The headings of the methods that do not depend on the fields. -/
def commonHeadings : List Heading := [
  ⟨"fromRecord", some "record"⟩, ⟨"equals", some "other"⟩, ⟨"hashCode", none⟩, ⟨"toRecord", none⟩,
  ⟨"toString", none⟩]

theorem map_name_headings (s : Schema) :
    (commonHeadings ++ accessorHeadings s.fields).map (·.name) = methodNames s := by
  rw [List.map_append, accessorHeadings, List.map_flatMap]
  rfl

theorem headings_blocks {s : Schema} (hs : IsWord s.simpleName.toList)
    (hn : ∀ f ∈ s.fields, IsWord f.name.toList) :
    headings (((shownBlocks s).flatMap ("" :: ·)).map String.toList) =
      commonHeadings ++ accessorHeadings s.fields := by
  have hblank : ' ' ∉ (TypeNames.of s).bean.toList := notMem_beanName hs (by decide)
  have hopen : '(' ∉ (TypeNames.of s).bean.toList := notMem_beanName hs (by decide)
  have hread : ∀ b : List String, (b.map String.toList).filterMap readHeading =
      headings (b.map String.toList) := fun _ => rfl
  unfold headings shownBlocks
  rw [filterMap_blocks readHeading_empty]
  unfold memberBlocks
  simp only [List.flatMap_cons, List.flatMap_nil, hread, headings_fromRecordLines hopen,
    headings_constructorLines hblank hopen hn, headings_equality, headings_toRecordLines,
    headings_toStringLines, headings_accessorLines hopen hn, List.append_nil]
  rfl

/-- Nothing outside the class body looks like a method. -/
theorem headings_bodyLines (s : Schema) (header : String) :
    headings (((layoutOf s header).bodyLines (shownBlocks s)).map String.toList) =
      headings (((shownBlocks s).flatMap ("" :: ·)).map String.toList) := by
  -- the lines of a file are known together with the empty one behind them
  have hlast (ls : List (List Char)) : headings (ls ++ [[]]) = headings ls := by
    have hempty : headings [[]] = [] := rfl
    unfold headings at hempty ⊢
    rw [List.filterMap_append, hempty, List.append_nil]
  have hstart (c : Char) (cs : List Char) (hc : c ≠ ' ') : readHeading (c :: cs) = none :=
    readHeading_eq_none 0 (c := ' ') rfl (by simpa using hc)
  have hpackage : headings ((packageLines s.packageName).map String.toList) = [] := by
    apply headings_of_none
    cases s.packageName with
    | none => simp [packageLines]
    | some p =>
      simp only [packageLines, List.forall_mem_cons, List.not_mem_nil, false_implies, implies_true,
        and_true]
      refine ⟨?_, rfl⟩
      rw [String.toList_append, String.toList_append]
      exact hstart 'p' _ (by decide)
  have hannotations :
      headings (s.extraAnnotations.map fun a => (annotationLine a).toList) = [] := by
    unfold headings
    rw [List.filterMap_map, List.filterMap_eq_nil_iff]
    intro a _
    rw [Function.comp_apply, annotationLine, String.toList_append]
    exact hstart '@' _ (by decide)
  have hhead : readHeading
      (headLine s.visibility.keyword s.beanName s.extraInterfaces).toList = none := by
    unfold headLine
    simp only [String.toList_append, List.append_assoc]
    cases s.visibility <;> exact hstart _ _ (by decide)
  have hdoc : readHeading (docLine ("A mutable bean interoperable with "
      ++ inlineCode s.qualifiedName ++ " records.")).toList = none := by
    rw [docLine, String.toList_append, String.toList_append]
    exact hstart '/' _ (by decide)
  have himport : readHeading (importLine "java.util.Objects").toList = none := rfl
  have hempty : readHeading [] = none := rfl
  have hend : readHeading "\x7d".toList = none := rfl
  unfold headings at hpackage hannotations
  rw [← hlast, lines_bodyLines]
  unfold headings classBody
  simp only [List.filterMap_append, List.filterMap_cons, List.filterMap_nil, hpackage,
    hannotations, hhead, hdoc, himport, hempty, hend, List.nil_append, List.append_nil]

/-- The methods of a rendered class have distinct names: no field has an accessor of another field
or one of the common methods. A getter takes the name of an inherited final method exactly if its
field is called `class` in another letter case. -/
theorem methods_apart {s : Schema} {header text : String} (h : renderOwn s header = .ok text) :
    (∃ ls, text = printHeader (harmless header) ++ unlines ls ∧
      (headings (ls.map String.toList)).map (·.name) = methodNames s ∧
      (IsOneLine s → lines (unlines ls) = ls.map String.toList ++ [[]])) ∧
    (methodNames s).Nodup ∧
    ∀ f ∈ s.fields, f.getter ∈ finalMethods ↔ f.name.toList.map Char.toLower = "class".toList := by
  obtain ⟨hs, hn⟩ := isWord_of_renderOwn h
  have hnamed : AreNamed s.fields := (exists_renderOwn_iff.mp ⟨text, h⟩).2
  refine ⟨⟨_, renderOwn_eq h, ?_, ?_⟩, nodup_methodNames hnamed, ?_⟩
  · rw [headings_bodyLines, headings_blocks hs hn, map_name_headings]
  · intro hone
    exact lines_unlines (hone.bodyLines hs hn header)
  · intro f _
    rw [getter_mem_finalMethods, capName_eq_iff]

/-- No method of a coffee bean is in the way of another one or of an inherited one. -/
theorem coffee_methods_apart :
    ∃ text, renderOwn coffee defaultHeader = .ok text ∧ (methodNames coffee).Nodup ∧
      ∀ f ∈ coffee.fields, f.getter ∉ finalMethods := by
  obtain ⟨text, h⟩ := exists_renderOwn_coffee
  obtain ⟨_, hnodup, hfinal⟩ := methods_apart h
  have hnames : ∀ f ∈ coffee.fields, f.name.toList.map Char.toLower ≠ "class".toList := by decide
  exact ⟨text, h, hnodup, fun f hf hm => hnames f hf ((hfinal f hf).mp hm)⟩

/-- A record with a component that is called `Class`. -/
def lesson : Schema where
  qualifiedName := "Lesson"
  simpleName := "Lesson"
  packageName := none
  visibility := .public
  fields := [⟨"Class", "String", false⟩]
  extraAnnotations := []
  extraInterfaces := []

/-- Its bean is written, with a getter that no class may declare. -/
theorem lesson_getClass :
    ∃ text, renderOwn lesson defaultHeader = .ok text ∧
      ∃ f ∈ lesson.fields, f.getter ∈ finalMethods := by
  refine ⟨_, rfl, ⟨"Class", "String", false⟩, List.mem_cons_self, ?_⟩
  exact getter_mem_finalMethods.mpr (by decide)

end RecordBean.MethodNames
