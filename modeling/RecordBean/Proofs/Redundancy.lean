import RecordBean.Loading
import RecordBean.Proofs.Editing
import RecordBean.Proofs.Entries

/-! # What a document can do without

No edit of the records of a document makes a difference to what is decoded from it. One lemma for each
kind of reader says so of a single edit, and a run of edits is followed step by step. A form describes
the records of a document apart from the rules by which they are read, with the values that stand for
members left out, and fits the rules if these are the values that a record has before reading. -/

namespace RecordBean.Redundancy
open RecordBean.Document RecordBean.Json RecordBean.Editing

variable {α β : Type}

/-! ## Readers -/

/-- A reader that takes no notice of the edits of a form. -/
def Overlooks (form : Form) (read : Reader α) : Prop :=
  ∀ d n n' v, Edit inDocument form n n' → read d n = .ok v → read d n' = .ok v

theorem overlooks_plain (read : Reader α) : Overlooks .plain read := by
  intro d n n' v h
  cases h

theorem readOption_of_ne_null {read : Reader α} {d : Dialect} {n : Node} (h : n ≠ .null) :
    readOption read d n = (read d n).map some := by
  cases n with
  | null => exact absurd rfl h
  | _ => rfl

theorem Overlooks.optional {form : Form} {read : Reader α} (h : Overlooks form read) :
    Overlooks (.optional form) (readOption read) := by
  intro d n n' v hedit hread
  cases hedit with
  | content ht =>
    obtain ⟨hn, hn'⟩ := ht.ne_null
    rw [readOption_of_ne_null hn] at hread
    rw [readOption_of_ne_null hn']
    cases hfirst : read d n with
    | error fault =>
      rw [hfirst] at hread
      cases hread
    | ok w =>
      rw [hfirst] at hread
      rw [h d n n' w ht hfirst]
      exact hread

/-- In a list that is mapped, an item can be exchanged for one that is mapped to the same. -/
theorem mapM_congr {ε : Type} {f : α → Except ε β} {t t' : α}
    (h : ∀ v, f t = .ok v → f t' = .ok v) {front behind : List α} {vs : List β}
    (hvs : (front ++ t :: behind).mapM f = .ok vs) :
    (front ++ t' :: behind).mapM f = .ok vs := by
  induction front generalizing vs with
  | nil =>
    rw [List.nil_append, List.mapM_cons] at hvs ⊢
    cases ht : f t with
    | error e =>
      rw [ht] at hvs
      cases hvs
    | ok v =>
      rw [ht] at hvs
      rw [h v ht]
      exact hvs
  | cons a front ih =>
    rw [List.cons_append, List.mapM_cons] at hvs ⊢
    cases ha : f a with
    | error e =>
      rw [ha] at hvs
      cases hvs
    | ok v =>
      rw [ha] at hvs
      cases hrest : (front ++ t :: behind).mapM f with
      | error e =>
        rw [hrest] at hvs
        cases hvs
      | ok ws =>
        rw [hrest] at hvs
        rw [ih hrest]
        exact hvs

theorem readList_eq_ok_iff {read : Reader α} {d : Dialect} {items : List Node} {vs : List α} :
    readList read d (inDocument.list items) = .ok vs ↔ items.mapM (read d) = .ok vs := by
  simp only [inDocument, readList]
  cases items.mapM (read d) <;> simp

theorem Overlooks.list {form : Form} {read : Reader α} (h : Overlooks form read) :
    Overlooks (.list form) (readList read) := by
  intro d n n' vs hedit hread
  cases hedit with
  | item ht =>
    rw [readList_eq_ok_iff] at hread ⊢
    exact mapM_congr (fun v hv => h d _ _ v ht hv) hread

/-! ## Records -/

/-- A rule that reads a member of a form. -/
structure Fits (s : Shape α) (name : String) (idle : Option Json) (form : Form)
    (r : FieldRule α) : Prop where
  name_eq : r.name = name
  /-- The value that stands for the member is the one that the record has before reading. -/
  idle_eq : ∀ j, idle = some j →
    r.presence ≠ .required ∧ ∀ d, r.read d j.node s.initial = .ok s.initial
  overlooks : ∀ d n n' a b, Edit inDocument form n n' → r.read d n a = .ok b → r.read d n' a = .ok b

section
variable {s : Shape α} {read : Reader β} {form : Form} {name : String} {presence : Presence}
  {set : β → α → α}

theorem of_overlooks (h : Overlooks form read) (d : Dialect) (n n' : Node) (a b : α)
    (hedit : Edit inDocument form n n')
    (hread : (FieldRule.of name presence read set).read d n a = .ok b) :
    (FieldRule.of name presence read set).read d n' a = .ok b := by
  rw [← toOption_eq_some, FieldRule.of_read_toOption] at hread ⊢
  obtain ⟨v, hv, hset⟩ := Option.map_eq_some_iff.mp hread
  rw [toOption_eq_some.mpr (h d n n' v hedit (toOption_eq_some.mp hv))]
  exact congrArg some hset

/-- A member that has to be there. -/
theorem Overlooks.needed (h : Overlooks form read) :
    Fits s name none form (.of name presence read set) where
  name_eq := rfl
  idle_eq j hj := by cases hj
  overlooks := of_overlooks h

/-- A member that can be left out, as its value is already set. -/
theorem Overlooks.spared (h : Overlooks form read) {idle : Json} {v : β}
    (hpresence : presence ≠ .required) (hread : ∀ d, read d idle.node = .ok v)
    (hset : set v s.initial = s.initial) :
    Fits s name (some idle) form (.of name presence read set) where
  name_eq := rfl
  idle_eq j hj := by
    cases hj
    refine ⟨hpresence, fun d => ?_⟩
    simp only [FieldRule.of, hread, Except.map, hset]
  overlooks := of_overlooks h

end

/-- A form with a member for each rule of a shape. -/
def Covers (s : Shape α) (members : List (String × Option Json × Form)) : Prop :=
  List.Forall₂ (fun m r => Fits s m.1 m.2.1 m.2.2 r) members s.rules

section
variable {s : Shape α} {members : List (String × Option Json × Form)}

theorem Covers.names (h : Covers s members) : members.map (·.1) = s.rules.map (·.name) := by
  have hequal : List.Forall₂ (fun m (r : FieldRule α) => m.1 = r.name) members s.rules :=
    h.imp fun _ _ hfits => hfits.name_eq.symm
  rw [← List.forall₂_eq_eq_eq, List.forall₂_map_left_iff, List.forall₂_map_right_iff]
  exact hequal

theorem Covers.exists_rule (h : Covers s members) {name : String} {idle : Option Json} {form : Form}
    (hmember : (name, idle, form) ∈ members) : ∃ r ∈ s.rules, Fits s name idle form r := by
  obtain ⟨hlength, hfits⟩ := List.forall₂_iff_get.mp h
  obtain ⟨⟨i, hi⟩, heq⟩ := List.mem_iff_get.mp hmember
  have hi' : i < s.rules.length := hlength ▸ hi
  have hfit := hfits i hi hi'
  rw [heq] at hfit
  exact ⟨s.rules.get ⟨i, hi'⟩, List.get_mem _ _, hfit⟩

theorem Covers.knows_eq_false (h : Covers s members) {name : String}
    (hname : name ∉ members.map (·.1)) : s.knows name = false := by
  rw [h.names, ← Shape.knows_iff] at hname
  simpa using hname

theorem read_eq_ok_iff (hs : s.Separate) {d : Dialect} {entries : List (String × Node)} {v : α} :
    s.read d (inDocument.table entries) = .ok v ↔ s.Reads d entries v :=
  Shape.readTable_eq_ok_iff hs entries v

/-- Records take no notice of what their members take no notice of, nor of the order of the members,
of members that they do not know and of values that they have anyway. -/
theorem Covers.overlooks (h : Covers s members) (hs : s.Separate) :
    Overlooks (.record members) s.read := by
  intro d n n' v hedit hread
  cases hedit with
  | reorder hperm =>
    rw [read_eq_ok_iff hs] at hread ⊢
    exact hread.perm hperm
  | add hname ht =>
    rw [read_eq_ok_iff hs] at hread ⊢
    exact (hread.cons_unknown (h.knows_eq_false hname) ht).perm List.perm_middle.symm
  | drop hmember =>
    rw [read_eq_ok_iff hs] at hread ⊢
    obtain ⟨r, hr, hfits⟩ := h.exists_rule hmember
    obtain ⟨hpresence, hidle⟩ := hfits.idle_eq _ rfl
    have hfirst := hread.perm List.perm_middle
    rw [← hfits.name_eq] at hfirst
    exact hfirst.of_cons hs hr hpresence (hidle d)
  | member hmember ht =>
    rw [read_eq_ok_iff hs] at hread ⊢
    obtain ⟨r, hr, hfits⟩ := h.exists_rule hmember
    have hfirst := hread.perm List.perm_middle
    rw [← hfits.name_eq] at hfirst ⊢
    have hexchanged := hfirst.cons_congr hs hr fun a b => hfits.overlooks d _ _ a b ht
    exact hexchanged.perm List.perm_middle.symm

end

/-! ## Catalogs, schemas and settings -/

def markerForm : Form := .record [
  ("annotations", some (.list []), .plain),
  ("interfaces", some (.list []), .plain)]

def componentForm : Form := .record [("name", none, .plain), ("type", none, .plain)]

def hostTypeForm : Form := .record [
  ("name", none, .plain),
  ("kind", none, .plain),
  ("modifiers", some (.list []), .plain),
  ("package", some .null, .plain),
  ("beanerate", some .null, .optional markerForm),
  ("components", some (.list []), .list componentForm)]

def catalogForm : Form := .record [("types", some (.list []), .list hostTypeForm)]

def fieldForm : Form := .record [
  ("name", none, .plain),
  ("declared_type", none, .plain),
  ("is_nested", none, .plain)]

def schemaForm : Form := .record [
  ("qualified_name", none, .plain),
  ("simple_name", none, .plain),
  ("package_name", some .null, .plain),
  ("visibility", none, .plain),
  ("fields", none, .list fieldForm),
  ("extra_annotations", some (.list []), .plain),
  ("extra_interfaces", some (.list []), .plain)]

/-- What is left out of the settings is as it is without a configuration. -/
def settingsForm : Form := .record [
  ("output_dir", some (.text Settings.default.outputDir), .plain),
  ("default_package", some (.ofOption .text Settings.default.defaultPackage), .plain),
  ("parallel", some (.boolean Settings.default.parallel), .plain),
  ("log_level", some (.text Settings.default.logLevel), .plain),
  ("header", some (.text Settings.default.header), .plain)]

theorem marker_overlooks : Overlooks markerForm Marker.shape.read := by
  refine Covers.overlooks ?_ Marker.shape_separate
  refine .cons ?_ (.cons ?_ .nil)
  · exact (overlooks_plain _).spared nofun (fun _ => rfl) rfl
  · exact (overlooks_plain _).spared nofun (fun _ => rfl) rfl

theorem component_overlooks : Overlooks componentForm Component.shape.read :=
  Covers.overlooks (.cons (overlooks_plain _).needed (.cons (overlooks_plain _).needed .nil))
    Component.shape_separate

theorem hostType_overlooks : Overlooks hostTypeForm HostType.shape.read := by
  refine Covers.overlooks ?_ HostType.shape_separate
  refine .cons ?name (.cons ?kind (.cons ?modifiers (.cons ?package (.cons ?marker
    (.cons ?components .nil)))))
  case name => exact (overlooks_plain _).needed
  case kind => exact (overlooks_plain _).needed
  case modifiers => exact (overlooks_plain _).spared nofun (fun _ => rfl) rfl
  case package => exact (overlooks_plain _).spared nofun (fun _ => rfl) rfl
  case marker => exact marker_overlooks.optional.spared nofun (fun _ => rfl) rfl
  case components => exact component_overlooks.list.spared nofun (fun _ => rfl) rfl

theorem catalog_overlooks : Overlooks catalogForm Catalog.shape.read := by
  refine Covers.overlooks (.cons ?_ .nil) Catalog.shape_separate
  exact hostType_overlooks.list.spared nofun (fun _ => rfl) rfl

theorem field_overlooks : Overlooks fieldForm Field.shape.read :=
  Covers.overlooks (.cons (overlooks_plain _).needed (.cons (overlooks_plain _).needed
    (.cons (overlooks_plain _).needed .nil))) Field.shape_separate

theorem schema_overlooks : Overlooks schemaForm Schema.shape.read := by
  refine Covers.overlooks ?_ Schema.shape_separate
  refine .cons ?qualifiedName (.cons ?simpleName (.cons ?package (.cons ?visibility (.cons ?fields
    (.cons ?annotations (.cons ?interfaces .nil))))))
  case qualifiedName => exact (overlooks_plain _).needed
  case simpleName => exact (overlooks_plain _).needed
  case package => exact (overlooks_plain _).spared nofun (fun _ => rfl) rfl
  case visibility => exact (overlooks_plain _).needed
  case fields => exact field_overlooks.list.needed
  case annotations => exact (overlooks_plain _).spared nofun (fun _ => rfl) rfl
  case interfaces => exact (overlooks_plain _).spared nofun (fun _ => rfl) rfl

theorem settings_overlooks : Overlooks settingsForm Settings.shape.read := by
  refine Covers.overlooks ?_ Settings.shape_separate
  refine .cons ?output (.cons ?package (.cons ?parallel (.cons ?level (.cons ?header .nil))))
  case output => exact (overlooks_plain _).spared nofun (fun _ => rfl) rfl
  case package => exact (overlooks_plain _).spared nofun (fun _ => rfl) rfl
  case parallel => exact (overlooks_plain _).spared nofun (fun _ => rfl) rfl
  case level => exact (overlooks_plain _).spared nofun (fun _ => rfl) rfl
  case header => exact (overlooks_plain _).spared nofun (fun _ => rfl) rfl

/-! ## Documents -/

theorem Overlooks.edits {form : Form} {read : Reader α} (h : Overlooks form read) {d : Dialect}
    {n n' : Node} {v : α} (hedits : Edits inDocument form n n') (hread : read d n = .ok v) :
    read d n' = .ok v := by
  induction hedits with
  | refl => exact hread
  | tail _ hstep ih => exact h d _ _ v hstep ih

/-- Whether two texts hold documents of which the second one comes from the first one by edits. -/
structure Revises (form : Form) (text text' : String) : Prop where
  edits : Edits inDocument form (Reading.of text).root (Reading.of text').root
  /-- Nothing but white space follows the document. -/
  whole : (Reading.of text').trailing = false

theorem decode_eq_ok_iff {read : Reader α} {text : String} {v : α} :
    decode read text = .ok v ↔
      read .jsonText (Reading.of text).root = .ok v ∧ (Reading.of text).trailing = false := by
  cases hread : read .jsonText (Reading.of text).root with
  | error fault => simp [decode, hread]
  | ok w => cases htrailing : (Reading.of text).trailing <;> simp [decode, hread, htrailing]

/-- What edits come to for those who decode. -/
structure Withstands (form : Form) (read : Reader α) : Prop where
  /-- A value that has been read before. -/
  values : ∀ j j' v, Edits inMemory form j j' →
    read .jsonTree j.node = .ok v → read .jsonTree j'.node = .ok v
  /-- A text, however it is laid out. -/
  texts : ∀ text text' v, Revises form text text' →
    decode read text = .ok v → decode read text' = .ok v

theorem Overlooks.withstands {form : Form} {read : Reader α} (h : Overlooks form read) :
    Withstands form read where
  values _ _ _ hedits hread := h.edits hedits.node hread
  texts text text' v hrevises hdecode := by
    rw [decode_eq_ok_iff] at hdecode ⊢
    exact ⟨h.edits hrevises.edits hdecode.1, hrevises.whole⟩

/-- Host types, schemas, settings and whole catalogs are decoded to the same value after any edits of
the records in them, and an edited catalog is loaded just as the catalog before. -/
theorem decoding_withstands_edits :
    Withstands hostTypeForm HostType.shape.read ∧
    Withstands schemaForm Schema.shape.read ∧
    Withstands settingsForm Settings.shape.read ∧
    Withstands catalogForm Catalog.shape.read ∧
    ∀ text text' types, Revises catalogForm text text' →
      decode Catalog.shape.read text = .ok types → Catalog.ofJson text' = Catalog.ofJson text := by
  have hcatalog := catalog_overlooks.withstands
  refine ⟨hostType_overlooks.withstands, schema_overlooks.withstands,
    settings_overlooks.withstands, hcatalog, ?_⟩
  intro text text' types hrevises hdecode
  have hdecode' := hcatalog.texts text text' types hrevises hdecode
  unfold Catalog.ofJson
  rw [hdecode, hdecode']

section
variable {T : Type} (m : Medium T)

/-- A host type with values that need not be there, as a tree of any kind. -/
def fullTea : T := m.table [
  ("name", m.ofValue (.text "Tea")),
  ("kind", m.ofValue (.text "record")),
  ("package", m.ofValue .null),
  ("beanerate", m.table [
    ("annotations", m.ofValue (.list [])),
    ("interfaces", m.ofValue (.ofTexts ["Drink"]))])]

/-- The same host type in another order, with a note in place of those values. -/
def notedTea : T := m.table [
  ("kind", m.ofValue (.text "record")),
  ("name", m.ofValue (.text "Tea")),
  ("beanerate", m.table [
    ("note", m.ofValue (.list [.null])),
    ("interfaces", m.ofValue (.ofTexts ["Drink"]))])]

/-- What both are decoded to. -/
def tea : HostType := ⟨"Tea", .record, [], none, some ⟨[], ["Drink"]⟩, []⟩

variable {m}

theorem edits_tea (hsound : ∀ j, m.IsSound (m.ofValue j)) :
    Edits m hostTypeForm (fullTea m) (notedTea m) := by
  have hmarker : Edits m (.optional markerForm)
      (m.table ([] ++ ("annotations", m.ofValue (.list [])) ::
        [("interfaces", m.ofValue (.ofTexts ["Drink"]))]))
      (m.table ([] ++ ("note", m.ofValue (.list [.null])) ::
        [("interfaces", m.ofValue (.ofTexts ["Drink"]))])) :=
    Edits.content ((Edits.drop (.head _)).trans (Edits.add (by decide) (hsound _)))
  have hinside : Edits m hostTypeForm (fullTea m) (m.table ([
      ("name", m.ofValue (.text "Tea")),
      ("kind", m.ofValue (.text "record"))] ++ ("package", m.ofValue .null) :: [
      ("beanerate", m.table [
        ("note", m.ofValue (.list [.null])),
        ("interfaces", m.ofValue (.ofTexts ["Drink"]))])])) := by
    show Edits m _ (m.table ([_, _, _] ++ ("beanerate", _) :: []))
      (m.table ([_, _, _] ++ ("beanerate", _) :: []))
    exact Edits.member (.tail _ (.tail _ (.tail _ (.tail _ (.head _))))) hmarker
  have hdrop := hinside.trans (Edits.drop (.tail _ (.tail _ (.tail _ (.head _)))))
  exact hdrop.trans (Edits.reorder (.swap _ _ _))

end

/-- Both are decoded to the same host type, in memory and from a text. -/
theorem tea_decoded :
    Edits inMemory hostTypeForm (fullTea inMemory) (notedTea inMemory) ∧
    HostType.shape.read .jsonTree (notedTea inMemory).node = .ok tea ∧
    Revises hostTypeForm (fullTea inMemory).render (notedTea inMemory).render ∧
    decode HostType.shape.read (notedTea inMemory).render = .ok tea := by
  have hedits : Edits inMemory hostTypeForm (fullTea inMemory) (notedTea inMemory) :=
    edits_tea fun _ => trivial
  have hread : HostType.shape.read .jsonTree (fullTea inMemory).node = .ok tea :=
    toOption_eq_some.mp (by decide +kernel)
  have hexact : (fullTea inMemory).isExact = true ∧ (notedTea inMemory).isExact = true := ⟨rfl, rfl⟩
  have hrevises : Revises hostTypeForm (fullTea inMemory).render (notedTea inMemory).render := by
    constructor
    · rw [Reading.of_render hexact.1, Reading.of_render hexact.2]
      exact edits_tea skipFault?_node
    · rw [Reading.of_render hexact.2]
  have hdecode : decode HostType.shape.read (fullTea inMemory).render = .ok tea := by
    rw [decode_render _ hexact.1]
    exact toOption_eq_some.mp (by decide +kernel)
  obtain ⟨hvalues, htexts⟩ := decoding_withstands_edits.1
  exact ⟨hedits, hvalues _ _ _ hedits hread, hrevises, htexts _ _ _ hrevises hdecode⟩

end RecordBean.Redundancy
