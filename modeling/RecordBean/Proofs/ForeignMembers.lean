import RecordBean.Proofs.QualifiedName
import RecordBean.Proofs.Recovery
import RecordBean.Proofs.RenderingOutcome

/-! # Members of another schema

Rendering takes members that were written for the bean name of the schema, whatever schema they were
written for. The class then is put together from the names of one schema and the members of the
other. It is the class that the schema gets with its own members exactly if both schemas have the
same qualified name and the same fields; all else that a schema says does not go into members. -/

namespace RecordBean.ForeignMembers
open RecordBean.Text RecordBean.Member RecordBean.SourceFile RecordBean.Recovery
  RecordBean.RenderingOutcome

/-! ## Which members are taken -/

/-- The bean name alone decides whether members are taken by a schema that can be rendered. -/
theorem exists_render_of_iff {s u : Schema} {header : String} :
    (∃ text, render s (Members.of u) header = .ok text) ↔
      u.simpleName = s.simpleName ∧ ∃ own, renderOwn s header = .ok own := by
  have hbean : (Members.of u).beanName = s.beanName ↔ u.simpleName = s.simpleName :=
    Name.companion_eq_iff
  unfold renderOwn
  rw [exists_render_iff, exists_render_iff, IsFit, IsFit, hbean,
    and_iff_right (Members.beanName_of s), and_assoc]

/-- Members of a schema with the same names and fields are the schema's own. -/
theorem members_of_eq {s u : Schema} (hsimple : u.simpleName = s.simpleName)
    (hname : u.qualifiedName = s.qualifiedName) (hfields : u.fields = s.fields) :
    Members.of u = Members.of s := by
  have hnames : TypeNames.of u = TypeNames.of s := by
    unfold TypeNames.of Schema.beanName
    rw [hsimple, hname]
  unfold Members.of
  rw [hnames, hfields]

/-- The file of a schema with members of another one. -/
theorem render_of_eq {s u : Schema} {header text : String}
    (h : render s (Members.of u) header = .ok text) :
    text = printHeader (harmless header) ++
      unlines ((layoutOf s header).bodyLines (shownBlocks u)) := by
  have hbean : u.beanName = s.beanName := (exists_render_iff.mp ⟨text, h⟩).1.1
  let file := { layoutOf s header with members := (Members.of u).inOrder.filter (!·.isEmpty) }
  have hbody : printBody file = unlines (file.bodyLines (shownBlocks u)) :=
    printBody_eq (filter_inOrder_of u)
  have hassemble : assemble s (Members.of u) header = .ok file := by
    unfold assemble
    rw [check_eq_ok_iff.mpr (exists_render_iff.mp ⟨text, h⟩), Members.beanName_of, hbean]
    rfl
  unfold render at h
  rw [hassemble] at h
  rw [← Except.ok.inj h, print, hbody]
  rfl

/-! ## What the text tells about the members -/

/-- No line of a member breaks apart. -/
def HasWholeLines (s : Schema) : Prop := ∀ b ∈ memberBlocks s, ∀ l ∈ b, '\n' ∉ l.toList

/-- In a schema that can be rendered, only the name of the record and the types of its components
could break a line of a member. -/
theorem hasWholeLines_of_renderOwn {s : Schema} {header own : String}
    (h : renderOwn s header = .ok own) (hname : '\n' ∉ s.qualifiedName.toList)
    (htypes : ∀ f ∈ s.fields, '\n' ∉ f.declaredType.toList) : HasWholeLines s := by
  obtain ⟨hs, hn⟩ := isWord_of_renderOwn h
  -- members take nothing over from the package and the marker
  let bare : Schema := { s with packageName := none, extraAnnotations := [], extraInterfaces := [] }
  have hone : IsOneLine bare := ⟨hname, by simp [bare], htypes, by simp [bare], by simp [bare]⟩
  exact hone.memberBlocks hs hn

theorem HasWholeLines.shown {s : Schema} (h : HasWholeLines s) :
    ∀ l ∈ (shownBlocks s).flatMap ("" :: ·), '\n' ∉ l.toList := by
  intro l hl
  obtain ⟨b, hb, hl⟩ := List.mem_flatMap.mp hl
  rcases List.mem_cons.mp hl with rfl | hl
  · decide
  · exact h b (List.mem_of_mem_filter hb) l hl

theorem unlines_eq_iff {a b : List String} (ha : ∀ l ∈ a, '\n' ∉ l.toList)
    (hb : ∀ l ∈ b, '\n' ∉ l.toList) : unlines a = unlines b ↔ a = b := by
  refine ⟨fun h => ?_, congrArg unlines⟩
  have hlines := congrArg Reading.lines h
  rw [Reading.lines_unlines ha, Reading.lines_unlines hb, List.append_cancel_right_eq] at hlines
  exact List.map_injective_iff.mpr (fun _ _ => String.toList_injective) hlines

/-- Files that differ in their members only have the same lines in their classes. -/
theorem classBody_eq {s u : Schema} {f : SourceFile} (hs : HasWholeLines s) (hu : HasWholeLines u)
    (h : unlines (f.bodyLines (shownBlocks u)) = unlines (f.bodyLines (shownBlocks s))) :
    classBody u = classBody s := by
  simp only [bodyLines, unlines_append, unlines, String.append_right_inj,
    String.append_left_inj] at h
  rw [unlines_eq_iff hu.shown hs.shown] at h
  unfold classBody
  rw [h]

/-- The class body begins with the comment that names the record. -/
theorem classBody_eq_cons (s : Schema) : ∃ rest, classBody s = "".toList ::
    (outer ("/** Builds a bean from the given " ++ inlineCode s.qualifiedName
      ++ " record. */")).toList :: rest := ⟨_, rfl⟩

theorem qualifiedName_eq {s u : Schema} (h : classBody u = classBody s) :
    u.qualifiedName = s.qualifiedName := by
  obtain ⟨us, hu⟩ := classBody_eq_cons u
  obtain ⟨ss, hs⟩ := classBody_eq_cons s
  rw [hu, hs] at h
  have hline := String.toList_injective (List.cons_eq_cons.mp (List.cons_eq_cons.mp h).2).1
  simpa only [outer, inlineCode, String.append_right_inj, String.append_left_inj] using hline

/-- The class body ends with the storage and the accessors. -/
theorem classBody_eq_append (s : Schema) : ∃ front, classBody s = front ++
    ((accessorLines (TypeNames.of s) s.fields).map String.toList ++ ["\x7d".toList, []]) := by
  have hblocks : ∃ others, memberBlocks s = others ++ [accessorLines (TypeNames.of s) s.fields] :=
    ⟨[_, _, _, _, _], rfl⟩
  obtain ⟨others, hblocks⟩ := hblocks
  unfold classBody shownBlocks
  rw [hblocks, List.filter_append, List.flatMap_append, List.map_append, List.append_assoc]
  cases accessorLines (TypeNames.of s) s.fields with
  | nil => exact ⟨_, rfl⟩
  | cons l ls =>
    refine ⟨((others.filter (!·.isEmpty)).flatMap ("" :: ·)).map String.toList ++ ["".toList], ?_⟩
    rw [List.append_assoc]
    simp

theorem length_accessorLines (names : TypeNames) (fields : List Field) :
    (accessorLines names fields).length = 13 * fields.length - 1 := by
  fun_induction accessorLines names fields with
  | case1 => rfl
  | case2 f => rfl
  | case3 f g rest ih =>
    rw [List.length_append, List.length_cons, ih]
    simp only [fieldLines, getterLines, setterLines, List.length_cons, List.length_append,
      List.length_nil]
    omega

/-- The lines of a field tell its name and the type of its storage. -/
theorem fieldLines_inj {names : TypeNames} {f g : Field}
    (h : fieldLines names f = fieldLines names g) : f.name = g.name ∧ f.beanType = g.beanType := by
  have hdoc := congrArg (·[2]?) h
  have hstorage := congrArg (·[0]?) h
  have hname : f.name = g.name := by
    simpa [fieldLines, getterLines, outer, inlineCode] using hdoc
  refine ⟨hname, ?_⟩
  simpa [fieldLines, storage, outer, hname] using hstorage

/-- Whether two fields are kept under the same name and with the same type. -/
def IsKeptAlike (f g : Field) : Prop := f.name = g.name ∧ f.beanType = g.beanType

theorem accessorLines_inj {names : TypeNames} {fields others : List Field}
    (hlength : fields.length = others.length)
    (h : accessorLines names fields = accessorLines names others) :
    List.Forall₂ IsKeptAlike fields others := by
  fun_induction accessorLines names fields generalizing others with
  | case1 =>
    rw [List.length_nil, eq_comm, List.length_eq_zero_iff] at hlength
    rw [hlength]
    exact .nil
  | case2 f =>
    obtain ⟨g, rfl⟩ := List.length_eq_one_iff.mp hlength.symm
    exact .cons (fieldLines_inj h) .nil
  | case3 f g rest ih =>
    cases others with
    | nil => cases hlength
    | cons f' others =>
      cases others with
      | nil => cases hlength
      | cons g' rest' =>
        obtain ⟨hfirst, hrest⟩ := List.append_inj h rfl
        exact .cons (fieldLines_inj hfirst)
          (ih (Nat.succ.inj hlength) (List.cons_eq_cons.mp hrest).2)

/-! ## What the conversion from a record adds -/

/-- What stands in a list behind an item that the rest follow. -/
def separated : List String → String
  | [] => ""
  | t :: rest => ", " ++ commaSeparated (t :: rest)

theorem commaSeparated_cons (t : String) (rest : List String) :
    commaSeparated (t :: rest) = t ++ separated rest := by
  cases rest with
  | nil => simp [commaSeparated, joined, separated]
  | cons r rest => simp [commaSeparated, joined, separated, String.append_assoc]

theorem head?_separated_ne (rest : List String) : (separated rest).toList.head? ≠ some ' ' := by
  cases rest with
  | nil => decide
  | cons t rest => simp [separated]

theorem separated_map_inj {fields others : List Field} (hlength : fields.length = others.length)
    (h : separated (fields.map recordValue) = separated (others.map recordValue)) :
    commaSeparated (fields.map recordValue) = commaSeparated (others.map recordValue) := by
  cases fields with
  | nil =>
    rw [List.length_nil, eq_comm, List.length_eq_zero_iff] at hlength
    rw [hlength]
  | cons f fields =>
    cases others with
    | nil => cases hlength
    | cons g others => exact (String.append_right_inj ", ").mp h

/-- A nested field asks for null behind its component, and a plain one does not. -/
theorem recordValue_append {f g : Field} {rest more : String} (hname : f.name = g.name)
    (hrest : rest.toList.head? ≠ some ' ') (hmore : more.toList.head? ≠ some ' ')
    (h : recordValue f ++ rest = recordValue g ++ more) : f.isNested = g.isNested := by
  unfold recordValue at h
  rw [hname] at h
  cases hf : f.isNested <;> cases hg : g.isNested <;>
    simp only [hf, hg, if_true, if_false, Bool.false_eq_true, String.append_assoc,
      String.append_right_inj] at h ⊢
  · rw [h] at hrest
    simp at hrest
  · rw [← h] at hmore
    simp at hmore

theorem eq_of_isKeptAlike {f g : Field} (h : IsKeptAlike f g) (hnested : f.isNested = g.isNested) :
    f = g := by
  obtain ⟨name, type, isNested⟩ := f
  obtain ⟨name', type', isNested'⟩ := g
  obtain ⟨rfl, htype⟩ := h
  obtain rfl : isNested = isNested' := hnested
  cases isNested with
  | false =>
    obtain rfl : type = type' := htype
    rfl
  | true =>
    obtain rfl : type = type' := Name.companion_eq_iff.mp htype
    rfl

/-- Fields that are kept alike are the same if their records are taken apart alike. -/
theorem fields_eq {fields others : List Field} (h : List.Forall₂ IsKeptAlike fields others)
    (hvalues : commaSeparated (fields.map recordValue) =
      commaSeparated (others.map recordValue)) : fields = others := by
  induction h with
  | nil => rfl
  | @cons f g fields others hkept hrest ih =>
    rw [List.map_cons, List.map_cons, commaSeparated_cons, commaSeparated_cons] at hvalues
    have hnested : f.isNested = g.isNested :=
      recordValue_append hkept.1 (head?_separated_ne _) (head?_separated_ne _) hvalues
    obtain rfl := eq_of_isKeptAlike hkept hnested
    rw [String.append_right_inj] at hvalues
    rw [ih (separated_map_inj hrest.length_eq hvalues)]

/-- Class bodies for one bean name are the same only for the same record and the same fields. -/
theorem classBody_inj {s u : Schema} (hbean : u.beanName = s.beanName)
    (h : classBody u = classBody s) :
    u.qualifiedName = s.qualifiedName ∧ u.fields = s.fields := by
  have hname := qualifiedName_eq h
  obtain ⟨hstored, hmade⟩ := behind_classBody u
  obtain ⟨hstored', hmade'⟩ := behind_classBody s
  rw [h, hstored'] at hstored
  rw [h, hmade'] at hmade
  have hlength : u.fields.length = s.fields.length := by
    have := congrArg List.length hstored
    rw [List.length_map, List.length_map] at this
    exact this.symm
  have hnames : TypeNames.of u = TypeNames.of s := by
    unfold TypeNames.of
    rw [hbean, hname]
  have hkept : List.Forall₂ IsKeptAlike u.fields s.fields := by
    obtain ⟨us, hu⟩ := classBody_eq_append u
    obtain ⟨ss, hs⟩ := classBody_eq_append s
    rw [hu, hs, hnames] at h
    have hlast := List.append_inj_right' h (by simp [length_accessorLines, hlength])
    rw [List.append_cancel_right_eq] at hlast
    exact accessorLines_inj hlength
      (List.map_injective_iff.mpr (fun _ _ => String.toList_injective) hlast)
  have hvalues : commaSeparated (u.fields.map recordValue) =
      commaSeparated (s.fields.map recordValue) := by
    have hline := String.toList_injective (List.cons_eq_cons.mp hmade).1
    rw [hbean] at hline
    simpa only [String.append_right_inj, String.append_left_inj] using hline.symm
  exact ⟨hname, fields_eq hkept hvalues⟩

/-! ## When foreign members do no harm -/

section
variable {s u : Schema} {header text : String}

theorem renderOwn_of_render (h : render s (Members.of u) header = .ok text)
    (hname : u.qualifiedName = s.qualifiedName) (hfields : u.fields = s.fields) :
    renderOwn s header = .ok text := by
  obtain ⟨hsimple, -⟩ := exists_render_of_iff.mp ⟨text, h⟩
  rw [members_of_eq hsimple hname hfields] at h
  exact h

theorem eq_of_render_of_renderOwn (hs : HasWholeLines s) (hu : HasWholeLines u)
    (h : render s (Members.of u) header = .ok text) (hown : renderOwn s header = .ok text) :
    u.qualifiedName = s.qualifiedName ∧ u.fields = s.fields := by
  have hbean : u.beanName = s.beanName := (exists_render_iff.mp ⟨text, h⟩).1.1
  have htext := (render_of_eq h).symm.trans (renderOwn_eq hown)
  exact classBody_inj hbean (classBody_eq hs hu ((String.append_right_inj _).mp htext))

end

/-- Members are taken on their bean name. What they make is the schema's own class if they come from
a schema with the same qualified name and the same fields; as long as no line breaks apart, it is
another class in every other case. -/
theorem members_fit_iff (s u : Schema) (header : String) :
    ((∃ text, render s (Members.of u) header = .ok text) ↔
      u.simpleName = s.simpleName ∧ ∃ own, renderOwn s header = .ok own) ∧
    (u.qualifiedName = s.qualifiedName → u.fields = s.fields → ∀ text,
      render s (Members.of u) header = .ok text → renderOwn s header = .ok text) ∧
    (HasWholeLines s → HasWholeLines u → ∀ text, render s (Members.of u) header = .ok text →
      (renderOwn s header = .ok text ↔
        u.qualifiedName = s.qualifiedName ∧ u.fields = s.fields)) := by
  refine ⟨exists_render_of_iff, fun hname hfields text h => ?_, fun hs hu text h => ?_⟩
  · exact renderOwn_of_render h hname hfields
  · constructor
    · exact eq_of_render_of_renderOwn hs hu h
    · rintro ⟨hname, hfields⟩
      exact renderOwn_of_render h hname hfields

/-- The record of the other one, with nothing taken over from a marker. -/
def plainCoffee : Schema :=
  { coffee with visibility := .packagePrivate, extraAnnotations := [], extraInterfaces := [] }

/-- The members of a bean do not depend on its access level, but on how its fields are nested. -/
theorem coffee_members_fit :
    HasWholeLines coffee ∧ HasWholeLines coffeeOfBeans ∧
    (∃ text, render coffee (Members.of plainCoffee) defaultHeader = .ok text ∧
      renderOwn coffee defaultHeader = .ok text) ∧
    ∃ text, render coffee (Members.of coffeeOfBeans) defaultHeader = .ok text ∧
      renderOwn coffee defaultHeader ≠ .ok text := by
  obtain ⟨own, hown⟩ := exists_renderOwn_coffee
  obtain ⟨other, hother⟩ : ∃ other, renderOwn coffeeOfBeans defaultHeader = .ok other :=
    exists_renderOwn_iff.mpr ⟨by decide, by decide, by decide⟩
  have hs : HasWholeLines coffee := hasWholeLines_of_renderOwn hown (by decide) (by decide)
  have hu : HasWholeLines coffeeOfBeans :=
    hasWholeLines_of_renderOwn hother (by decide) (by decide)
  obtain ⟨htaken, hsame, -⟩ := members_fit_iff coffee plainCoffee defaultHeader
  obtain ⟨htaken', -, hfits⟩ := members_fit_iff coffee coffeeOfBeans defaultHeader
  obtain ⟨text, h⟩ := htaken.mpr ⟨rfl, own, hown⟩
  obtain ⟨text', h'⟩ := htaken'.mpr ⟨rfl, own, hown⟩
  refine ⟨hs, hu, ⟨text, h, hsame rfl rfl text h⟩, text', h', fun hown' => ?_⟩
  obtain ⟨-, hfields⟩ := (hfits hs hu text' h').mp hown'
  exact absurd hfields (by decide)

/-- A cup to drink from. -/
def mug : Schema where
  qualifiedName := "demo.Cup"
  simpleName := "Cup"
  packageName := some "demo"
  visibility := .public
  fields := [⟨"size", "int", false⟩]
  extraAnnotations := []
  extraInterfaces := []

/-- A cup to win. -/
def trophy : Schema :=
  { mug with
    qualifiedName := "sport.Cup"
    packageName := some "sport"
    fields := [⟨"year", "int", false⟩] }

/-- Members of another record in another package are taken, and the class is not the schema's. -/
theorem mug_takes_trophy : ∃ text own, render mug (Members.of trophy) defaultHeader = .ok text ∧
    renderOwn mug defaultHeader = .ok own ∧ text ≠ own := by
  obtain ⟨own, hown⟩ : ∃ own, renderOwn mug defaultHeader = .ok own :=
    exists_renderOwn_iff.mpr ⟨by decide, by decide, by decide⟩
  obtain ⟨other, hother⟩ : ∃ other, renderOwn trophy defaultHeader = .ok other :=
    exists_renderOwn_iff.mpr ⟨by decide, by decide, by decide⟩
  obtain ⟨text, h⟩ := (exists_render_of_iff (s := mug) (u := trophy)).mpr ⟨rfl, own, hown⟩
  refine ⟨text, own, h, hown, ?_⟩
  rintro rfl
  obtain ⟨hname, -⟩ := eq_of_render_of_renderOwn
    (hasWholeLines_of_renderOwn hown (by decide) (by decide))
    (hasWholeLines_of_renderOwn hother (by decide) (by decide)) h hown
  exact absurd hname (by decide)

end RecordBean.ForeignMembers
