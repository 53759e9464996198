import RecordBean.Loading
import RecordBean.Proofs.Decoding
import RecordBean.Proofs.TomlText

/-! # The two formats of catalogs

A tree means the same as a TOML catalog and as a JSON catalog. The two views of a tree differ in the
order of members and in long integers only. The order does not matter to the decoding of records, and
no field of a catalog takes a number; but TOML does not even pass over an integer beyond 128 bits,
which JSON does. So the formats agree reader by reader, from texts up to catalogs, as long as no
integer is that long, and as long as no list stands for a record and no table for a kind. -/

namespace RecordBean.Formats
open RecordBean.Decimal RecordBean.Document RecordBean.Json

variable {α β : Type}

/-! ## Places that no reader takes -/

/-- What stands where a catalog wants something else, whatever it wants. -/
inductive Barren : Node → Prop
  | boolean (value : Bool) : Barren (.boolean value)
  | number (value : Numeral) : Barren (.number value)
  | gap (gap : Gap) : Barren (.gap gap)

theorem barren_integerNode (n : Int) : Barren (Toml.Scalar.integerNode n) := by
  unfold Toml.Scalar.integerNode
  split
  · exact .number _
  · exact .gap _

/-- A reader that gives no value where there is none. -/
def Strict (read : Reader α) : Prop :=
  ∀ d n, Barren n → (read d n).toOption = none

theorem readText_strict : Strict readText := by
  intro d n hn
  cases hn <;> rfl

theorem readList_strict (read : Reader α) : Strict (readList read) := by
  intro d n hn
  cases hn <;> rfl

theorem readVariant_strict {labels : List String} {ofLabel? : String → Option α} :
    Strict (readVariant labels ofLabel?) := by
  intro d n hn
  cases hn <;> cases d <;> rfl

theorem shape_strict (s : Shape α) : Strict s.read := by
  intro d n hn
  cases hn <;> rfl

theorem barren_jsonNode_integer (n : Int) : Barren (Tree.integer n).jsonNode := by
  have hnode : (Tree.integer n).jsonNode = (readNumber (writeNumeral (.integer n))).value := rfl
  rw [hnode]
  rcases readNumber_integer_cases n with ⟨x, hx⟩ | hgap
  · rw [hx]
    exact .number x
  · rw [hgap]
    exact .gap _

/-! ## Agreement -/

/-- TOML reads the same as JSON, as long as it has all integers of the tree. -/
def Agrees (read : Reader α) (t : Tree) : Prop :=
  ∀ v, (read .toml t.tomlNode).toOption = some v
    ↔ (read .jsonText t.jsonNode).toOption = some v ∧ t.isNarrow = true

/-- What neither format reads is agreed on. -/
theorem Agrees.of_none {read : Reader α} {t : Tree}
    (htoml : (read .toml t.tomlNode).toOption = none)
    (hjson : (read .jsonText t.jsonNode).toOption = none) : Agrees read t := by
  intro v
  simp [htoml, hjson]

theorem Strict.agrees_boolean {read : Reader α} (h : Strict read) (b : Bool) :
    Agrees read (.boolean b) :=
  .of_none (h _ _ (.boolean b)) (h _ _ (.boolean b))

theorem Strict.agrees_integer {read : Reader α} (h : Strict read) (n : Int) :
    Agrees read (.integer n) :=
  .of_none (h _ _ (barren_integerNode n)) (h _ _ (barren_jsonNode_integer n))

theorem readText_agrees (t : Tree) : Agrees readText t := by
  cases t with
  | boolean b => exact readText_strict.agrees_boolean b
  | integer n => exact readText_strict.agrees_integer n
  | text s => intro v; simp [Tree.tomlNode, Tree.jsonNode, Tree.json, tree, Tree.isNarrow,
      Tree.all, readText, readTextAs]
  | list items => exact .of_none (by rw [Tree.tomlNode_list]; rfl) (by rw [Tree.jsonNode_list]; rfl)
  | table members =>
    exact .of_none (by rw [Tree.tomlNode_table]; rfl) (by rw [Tree.jsonNode_table]; rfl)

theorem mapM_toOption (f : α → Except Fault β) (as : List α) :
    (as.mapM f).toOption = as.mapM fun a => (f a).toOption := by
  induction as with
  | nil => rfl
  | cons a as ih =>
    rw [List.mapM_cons, List.mapM_cons, ← ih]
    cases f a with
    | error fault => rfl
    | ok b => cases as.mapM f <;> rfl

theorem readList_toOption (read : Reader α) (d : Dialect) (items : List Node) :
    (readList read d (.list items none)).toOption = items.mapM fun n => (read d n).toOption := by
  rw [← mapM_toOption]
  simp only [readList]
  cases items.mapM (read d) <;> rfl

theorem mapM_agrees {read : Reader α} {items : List Tree} (h : ∀ t ∈ items, Agrees read t)
    (vs : List α) :
    (items.map Tree.tomlNode).mapM (fun n => (read .toml n).toOption) = some vs
      ↔ (items.map Tree.jsonNode).mapM (fun n => (read .jsonText n).toOption) = some vs
        ∧ ∀ t ∈ items, t.isNarrow = true := by
  induction items generalizing vs with
  | nil => simp
  | cons t items ih =>
    rw [List.forall_mem_cons] at h
    simp only [List.map_cons, List.mapM_cons, List.forall_mem_cons, Option.bind_eq_bind,
      Option.bind_eq_some_iff, Option.pure_def, Option.some.injEq]
    constructor
    · rintro ⟨v, hv, rest, hrest, rfl⟩
      obtain ⟨hfirst, hnarrow⟩ := (h.1 v).mp hv
      obtain ⟨hothers, hall⟩ := (ih h.2 rest).mp hrest
      exact ⟨⟨v, hfirst, rest, hothers, rfl⟩, hnarrow, hall⟩
    · rintro ⟨⟨v, hv, rest, hrest, rfl⟩, hnarrow, hall⟩
      exact ⟨v, (h.1 v).mpr ⟨hv, hnarrow⟩, rest, (ih h.2 rest).mpr ⟨hrest, hall⟩, rfl⟩

/-- Lists are agreed on if their items are. -/
theorem readList_agrees {read : Reader α} {t : Tree} (h : ∀ i ∈ t.items, Agrees read i) :
    Agrees (readList read) t := by
  cases t with
  | boolean b => exact (readList_strict read).agrees_boolean b
  | integer n => exact (readList_strict read).agrees_integer n
  | text s => exact .of_none rfl rfl
  | list items =>
    intro vs
    have hitems : ∀ i ∈ items, Agrees read i := h
    rw [Tree.tomlNode_list, Tree.jsonNode_list, readList_toOption, readList_toOption,
      mapM_agrees hitems vs, Tree.isNarrow_list]
  | table members =>
    exact .of_none (by rw [Tree.tomlNode_table]; rfl) (by rw [Tree.jsonNode_table]; rfl)

theorem readTexts_agrees (t : Tree) : Agrees readTexts t :=
  readList_agrees fun i _ => readText_agrees i

theorem readOption_toOption (read : Reader α) (d : Dialect) {n : Node} (h : n ≠ .null) :
    (readOption read d n).toOption = (read d n).toOption.map some := by
  simp only [readOption]
  cases read d n <;> rfl

/-- No tree stands for a missing value. -/
theorem tomlNode_ne_null (t : Tree) : t.tomlNode ≠ .null := by
  cases t with
  | integer n =>
    intro h
    have hbarren := barren_integerNode n
    rw [show Toml.Scalar.integerNode n = .null from h] at hbarren
    cases hbarren
  | _ => nofun

theorem jsonNode_ne_null (t : Tree) : t.jsonNode ≠ .null := by
  cases t with
  | integer n =>
    intro h
    have hbarren := barren_jsonNode_integer n
    rw [h] at hbarren
    cases hbarren
  | _ => nofun

theorem readOption_agrees {read : Reader α} {t : Tree} (h : Agrees read t) :
    Agrees (readOption read) t := by
  intro v
  rw [readOption_toOption read _ (tomlNode_ne_null t),
    readOption_toOption read _ (jsonNode_ne_null t)]
  simp only [Option.map_eq_some_iff]
  constructor
  · rintro ⟨w, hw, rfl⟩
    obtain ⟨hread, hnarrow⟩ := (h w).mp hw
    exact ⟨⟨w, hread, rfl⟩, hnarrow⟩
  · rintro ⟨⟨w, hw, rfl⟩, hnarrow⟩
    exact ⟨w, (h w).mpr ⟨hw, hnarrow⟩, rfl⟩

/-- The name of a variant is agreed on; only tables are not. -/
theorem readVariant_agrees {labels : List String} {ofLabel? : String → Option α} {t : Tree}
    (h : t.isTable = false) : Agrees (readVariant labels ofLabel?) t := by
  cases t with
  | boolean b => exact readVariant_strict.agrees_boolean b
  | integer n => exact readVariant_strict.agrees_integer n
  | text s =>
    intro v
    simp [Tree.tomlNode, Tree.jsonNode, Tree.json, tree, Tree.isNarrow, Tree.all, readVariant]
  | list items => exact .of_none (by rw [Tree.tomlNode_list]; rfl) (by rw [Tree.jsonNode_list]; rfl)
  | table members => cases h

/-! ## Records -/

/-- The two views of the members of a table. -/
def tomlEntries (members : List (String × Tree)) : List (String × Node) :=
  sortMembers (members.map fun m => (m.1, m.2.tomlNode))

def jsonEntries (members : List (String × Tree)) : List (String × Node) :=
  members.map fun m => (m.1, m.2.jsonNode)

/-- A rule reads the same in both formats, as long as TOML has all integers. -/
def RuleAgrees (r : FieldRule α) (t : Tree) : Prop :=
  ∀ a b, (r.read .toml t.tomlNode a).toOption = some b
    ↔ (r.read .jsonText t.jsonNode a).toOption = some b ∧ t.isNarrow = true

theorem Agrees.rule {read : Reader β} {t : Tree} (h : Agrees read t) (name : String)
    (presence : Presence) (set : β → α → α) :
    RuleAgrees (FieldRule.of name presence read set) t := by
  intro a b
  simp only [FieldRule.of_read_toOption, Option.map_eq_some_iff]
  constructor
  · rintro ⟨v, hv, rfl⟩
    obtain ⟨hread, hnarrow⟩ := (h v).mp hv
    exact ⟨⟨v, hread, rfl⟩, hnarrow⟩
  · rintro ⟨⟨v, hv, rfl⟩, hnarrow⟩
    exact ⟨v, (h v).mpr ⟨hv, hnarrow⟩, rfl⟩

section
variable {members : List (String × Tree)} (hnames : (members.map (·.1)).Nodup)
include hnames

theorem take_agrees {r : FieldRule α}
    (h : ∀ t, members.lookup r.name = some t → RuleAgrees r t) (a b : α) :
    r.take .toml (tomlEntries members) a = some b
      ↔ r.take .jsonText (jsonEntries members) a = some b
        ∧ ∀ t, members.lookup r.name = some t → t.isNarrow = true := by
  have hkeys : ((members.map fun m => (m.1, m.2.tomlNode)).map (·.1)).Nodup := by
    rw [List.map_map]
    exact hnames
  simp only [FieldRule.take, tomlEntries, jsonEntries, Tree.lookup_sortMembers hkeys,
    Tree.lookup_map Tree.tomlNode, Tree.lookup_map Tree.jsonNode]
  cases hlookup : members.lookup r.name with
  | none => simp
  | some t => simpa using h t hlookup a b

theorem takeAll_agrees {rules : List (FieldRule α)}
    (h : ∀ r ∈ rules, ∀ t, members.lookup r.name = some t → RuleAgrees r t) (a b : α) :
    FieldRule.takeAll rules .toml (tomlEntries members) a = some b
      ↔ FieldRule.takeAll rules .jsonText (jsonEntries members) a = some b
        ∧ ∀ r ∈ rules, ∀ t, members.lookup r.name = some t → t.isNarrow = true := by
  induction rules generalizing a with
  | nil => simp [FieldRule.takeAll]
  | cons r rules ih =>
    rw [List.forall_mem_cons] at h
    simp only [FieldRule.takeAll_cons, Option.bind_eq_some_iff, List.forall_mem_cons]
    constructor
    · rintro ⟨c, hc, hrest⟩
      obtain ⟨hfirst, hnarrow⟩ := (take_agrees hnames h.1 a c).mp hc
      obtain ⟨hothers, hall⟩ := (ih h.2 c).mp hrest
      exact ⟨⟨c, hfirst, hothers⟩, hnarrow, hall⟩
    · rintro ⟨⟨c, hc, hrest⟩, hnarrow, hall⟩
      exact ⟨c, (take_agrees hnames h.1 a c).mpr ⟨hc, hnarrow⟩, (ih h.2 c).mpr ⟨hrest, hall⟩⟩

end

/-! ## Passing over -/

theorem skipFault?_jsonNode (t : Tree) : t.jsonNode.skipFault? = none := by
  induction t with
  | boolean b => rfl
  | text s => rfl
  | integer n =>
    have hnode : (Tree.integer n).jsonNode = (readNumber (writeNumeral (.integer n))).value := rfl
    rcases readNumber_integer_cases n with ⟨x, hx⟩ | hgap
    · rw [hnode, hx]
      rfl
    · rw [hnode, hgap]
      rfl
  | list items ih =>
    rw [Tree.jsonNode_list, skipFault?_list, List.forall_mem_map]
    exact ih
  | table members ih =>
    rw [Tree.jsonNode_table, skipFault?_table, List.forall_mem_map]
    exact ih

/-- TOML passes over everything but integers that it does not have. -/
theorem skipFault?_tomlNode (t : Tree) : t.tomlNode.skipFault? = none ↔ t.isNarrow = true := by
  induction t with
  | boolean b => simp [Tree.tomlNode, Node.skipFault?, Tree.isNarrow, Tree.all]
  | text s => simp [Tree.tomlNode, Node.skipFault?, Tree.isNarrow, Tree.all]
  | integer n =>
    simp only [Tree.tomlNode, Toml.Scalar.integerNode, Tree.isNarrow, Tree.all, decide_eq_true_eq]
    split
    · next h => simp [Node.skipFault?, h]
    · next h => simp [Node.skipFault?, Toml.Scalar.integerGap, Toml.Scalar.valueless, h]
  | list items ih =>
    rw [Tree.tomlNode_list, skipFault?_list, Tree.isNarrow_list, List.forall_mem_map]
    exact forall₂_congr ih
  | table members ih =>
    rw [Tree.tomlNode_table, skipFault?_table, Tree.isNarrow_table]
    simp only [(Tree.sortMembers_perm _).mem_iff, List.forall_mem_map]
    exact forall₂_congr ih

theorem tomlEntries_perm (members : List (String × Tree)) :
    (tomlEntries members).Perm (members.map fun m => (m.1, m.2.tomlNode)) :=
  Tree.sortMembers_perm _

theorem tomlEntries_names (members : List (String × Tree)) :
    ((tomlEntries members).map (·.1)).Perm (members.map (·.1)) := by
  have hperm := (tomlEntries_perm members).map (·.1)
  rwa [List.map_map] at hperm

theorem jsonEntries_names (members : List (String × Tree)) :
    (jsonEntries members).map (·.1) = members.map (·.1) := by
  rw [jsonEntries, List.map_map]
  rfl

/-- A table is read as the same record in both formats, as long as TOML has all integers: those that
are decoded, and those that are passed over. -/
theorem reads_agrees {s : Shape α} {members : List (String × Tree)}
    (hnames : (members.map (·.1)).Nodup)
    (h : ∀ r ∈ s.rules, ∀ t, members.lookup r.name = some t → RuleAgrees r t) (v : α) :
    s.Reads .toml (tomlEntries members) v
      ↔ s.Reads .jsonText (jsonEntries members) v ∧ ∀ m ∈ members, m.2.isNarrow = true := by
  have hvalue := takeAll_agrees hnames h s.initial v
  have hmember : ∀ {r m}, s.rule? m.1 = some r → m ∈ members →
      r ∈ s.rules ∧ members.lookup r.name = some m.2 := by
    intro r m hrule hm
    obtain ⟨hr, hname⟩ := Shape.rule?_eq_some hrule
    exact ⟨hr, hname ▸ (Tree.lookup_eq_some_iff_mem hnames).mpr hm⟩
  constructor
  · intro hread
    obtain ⟨hjson, hknown⟩ := hvalue.mp hread.value
    refine ⟨⟨?_, ?_, ?_, hjson⟩, ?_⟩
    · rw [jsonEntries_names]
      exact hnames.filter _
    · intro e he _
      obtain ⟨m, -, rfl⟩ := List.mem_map.mp he
      exact skipFault?_jsonNode m.2
    · intro r hr hpresence
      rw [jsonEntries_names]
      exact (tomlEntries_names members).mem_iff.mp (hread.required r hr hpresence)
    · intro m hm
      cases hrule : s.rule? m.1 with
      | some r =>
        obtain ⟨hr, hlookup⟩ := hmember hrule hm
        exact hknown r hr m.2 hlookup
      | none =>
        have hentry : (m.1, m.2.tomlNode) ∈ tomlEntries members :=
          (tomlEntries_perm members).mem_iff.mpr (List.mem_map.mpr ⟨m, hm, rfl⟩)
        exact (skipFault?_tomlNode m.2).mp
          (hread.skipped _ hentry (by simp [Shape.knows, hrule]))
  · rintro ⟨hread, hnarrow⟩
    refine ⟨?_, ?_, ?_, hvalue.mpr ⟨hread.value, ?_⟩⟩
    · exact ((tomlEntries_names members).nodup_iff.mpr hnames).filter _
    · intro e he _
      obtain ⟨m, hm, rfl⟩ := List.mem_map.mp ((tomlEntries_perm members).mem_iff.mp he)
      exact (skipFault?_tomlNode m.2).mpr (hnarrow m hm)
    · intro r hr hpresence
      rw [(tomlEntries_names members).mem_iff, ← jsonEntries_names]
      exact hread.required r hr hpresence
    · intro r _ t hlookup
      exact hnarrow (r.name, t) ((Tree.lookup_eq_some_iff_mem hnames).mp hlookup)

/-- Records are agreed on if the entries of their rules are. -/
theorem shape_agrees {s : Shape α} (hs : s.Separate) {t : Tree} (hlist : t.isList = false)
    (hdistinct : t.isDistinct = true)
    (h : ∀ r ∈ s.rules, ∀ m, t.members.lookup r.name = some m → RuleAgrees r m) :
    Agrees s.read t := by
  cases t with
  | boolean b => exact (shape_strict s).agrees_boolean b
  | integer n => exact (shape_strict s).agrees_integer n
  | text s => exact .of_none rfl rfl
  | list items => cases hlist
  | table members =>
    intro v
    obtain ⟨hnames, -⟩ := Tree.isDistinct_table.mp hdistinct
    rw [Tree.tomlNode_table, Tree.jsonNode_table, Tree.isNarrow_table, toOption_eq_some,
      toOption_eq_some]
    simp only [Shape.read]
    rw [Shape.readTable_eq_ok_iff hs, Shape.readTable_eq_ok_iff hs]
    exact reads_agrees hnames h v

/-! ## Catalogs -/

/-- Whether the records inside a host type stand as tables, and its kind by its name. -/
def isRegularHostType (t : Tree) : Bool :=
  !t.isList && (t.members.lookup "kind").all (!·.isTable)
    && (t.members.lookup "beanerate").all (!·.isList)
    && (t.members.lookup "components").all fun c => c.items.all (!·.isList)

/-- Whether no list stands where a catalog has a record, and no table where it has a kind. Lists
could hold the fields of a record in order, and a table the name of a kind as its key; the formats
go about both in different ways. -/
def isRegular (t : Tree) : Bool :=
  !t.isList && (t.members.lookup "types").all fun l => l.items.all isRegularHostType

theorem isDistinct_of_lookup {t m : Tree} {name : String} (ht : t.isDistinct = true)
    (hm : t.members.lookup name = some m) : m.isDistinct = true := by
  cases t with
  | table members =>
    obtain ⟨hnames, hall⟩ := Tree.isDistinct_table.mp ht
    exact hall (name, m) ((Tree.lookup_eq_some_iff_mem hnames).mp hm)
  | _ => cases hm

theorem isDistinct_of_mem_items {t i : Tree} (ht : t.isDistinct = true) (hi : i ∈ t.items) :
    i.isDistinct = true := by
  cases t with
  | list items => exact Tree.isDistinct_list.mp ht i hi
  | _ => cases hi

theorem marker_agrees {t : Tree} (hlist : t.isList = false) (hdistinct : t.isDistinct = true) :
    Agrees Marker.shape.read t := by
  refine shape_agrees Marker.shape_separate hlist hdistinct ?_
  simp only [Marker.shape, List.forall_mem_cons]
  exact ⟨fun m _ => (readTexts_agrees m).rule _ _ _, fun m _ => (readTexts_agrees m).rule _ _ _,
    nofun⟩

theorem component_agrees {t : Tree} (hlist : t.isList = false) (hdistinct : t.isDistinct = true) :
    Agrees Component.shape.read t := by
  refine shape_agrees Component.shape_separate hlist hdistinct ?_
  simp only [Component.shape, List.forall_mem_cons]
  exact ⟨fun m _ => (readText_agrees m).rule _ _ _, fun m _ => (readText_agrees m).rule _ _ _,
    nofun⟩

theorem hostType_agrees {t : Tree} (hregular : isRegularHostType t = true)
    (hdistinct : t.isDistinct = true) : Agrees HostType.shape.read t := by
  simp only [isRegularHostType, Bool.and_eq_true, Bool.not_eq_true', Option.all_eq_true,
    List.all_eq_true] at hregular
  obtain ⟨⟨⟨hlist, hkind⟩, hmarker⟩, hcomponents⟩ := hregular
  refine shape_agrees HostType.shape_separate hlist hdistinct ?_
  simp only [HostType.shape, List.forall_mem_cons]
  refine ⟨?name, ?kind, ?modifiers, ?package, ?marker, ?components, nofun⟩
  case name => exact fun m _ => (readText_agrees m).rule _ _ _
  case kind => exact fun m hm => (readVariant_agrees (hkind m hm)).rule _ _ _
  case modifiers => exact fun m _ => (readTexts_agrees m).rule _ _ _
  case package => exact fun m _ => (readOption_agrees (readText_agrees m)).rule _ _ _
  case marker =>
    intro m hm
    have hagrees := marker_agrees (hmarker m hm) (isDistinct_of_lookup hdistinct hm)
    exact (readOption_agrees hagrees).rule _ _ _
  case components =>
    intro m hm
    have hagrees : ∀ i ∈ m.items, Agrees Component.shape.read i := fun i hi =>
      component_agrees (hcomponents m hm i hi)
        (isDistinct_of_mem_items (isDistinct_of_lookup hdistinct hm) hi)
    exact (readList_agrees hagrees).rule _ _ _

theorem catalog_agrees {t : Tree} (hregular : isRegular t = true)
    (hdistinct : t.isDistinct = true) : Agrees Catalog.shape.read t := by
  simp only [isRegular, Bool.and_eq_true, Bool.not_eq_true', Option.all_eq_true,
    List.all_eq_true] at hregular
  obtain ⟨hlist, htypes⟩ := hregular
  refine shape_agrees Catalog.shape_separate hlist hdistinct ?_
  simp only [Catalog.shape, List.forall_mem_cons]
  refine ⟨?_, nofun⟩
  intro m hm
  have hagrees : ∀ i ∈ m.items, Agrees HostType.shape.read i := fun i hi =>
    hostType_agrees (htypes m hm i hi)
      (isDistinct_of_mem_items (isDistinct_of_lookup hdistinct hm) hi)
  exact (readList_agrees hagrees).rule _ _ _

/-! ## Texts -/

/-- A TOML text that holds a tree. -/
def TomlText (text : String) (t : Tree) : Prop := Toml.parse? text = some t.tomlNode

/-- A JSON text that holds a tree. -/
def JsonText (text : String) (t : Tree) : Prop := Reading.of text = ⟨t.jsonNode, false⟩

theorem isExact_json (t : Tree) : t.json.isExact = true := by
  induction t with
  | boolean b => rfl
  | integer n => rfl
  | text s => rfl
  | list items ih =>
    rw [Tree.json, isExact]
    induction items with
    | nil => rfl
    | cons t items ihs =>
      rw [List.forall_mem_cons] at ih
      rw [Tree.jsonItems, areExact, ih.1, ihs ih.2]
      rfl
  | table members ih =>
    rw [Tree.json, isExact]
    induction members with
    | nil => rfl
    | cons m members ihs =>
      rw [List.forall_mem_cons] at ih
      rw [Tree.jsonMembers, areExactMembers, ih.1, ihs ih.2]
      rfl

theorem jsonText_render (t : Tree) : JsonText t.json.render t :=
  Reading.of_render (isExact_json t)

section
variable {t : Tree} {toml json : String}

theorem decode_toml (h : TomlText toml t) (read : Reader α) :
    Toml.decode read toml = read .toml t.tomlNode := by
  have hparse : Toml.parse? toml = some t.tomlNode := h
  simp only [Toml.decode, hparse]

theorem decode_json (h : JsonText json t) (read : Reader α) :
    Json.decode read json = read .jsonText t.jsonNode := by
  have hreading : Reading.of json = ⟨t.jsonNode, false⟩ := h
  rw [Json.decode, hreading]
  cases read .jsonText t.jsonNode <;> rfl

/-- A result of loading that is no fault of a format. -/
def IsCommon (result : Except LoadError Catalog) : Prop :=
  ∀ fault, result ≠ .error (.toml fault) ∧ result ≠ .error (.json fault)

theorem isCommon_ok (c : Catalog) : IsCommon (.ok c) := by
  intro fault
  exact ⟨nofun, nofun⟩

theorem isCommon_duplicateType (name : String) : IsCommon (.error (.duplicateType name)) := by
  intro fault
  exact ⟨nofun, nofun⟩

theorem ofToml_eq_iff (h : TomlText toml t) {result : Except LoadError Catalog}
    (hresult : IsCommon result) :
    Catalog.ofToml toml = result
      ↔ ∃ types, (Catalog.shape.read .toml t.tomlNode).toOption = some types
          ∧ Catalog.ofDecoded types = result := by
  rw [Catalog.ofToml, decode_toml h]
  cases Catalog.shape.read .toml t.tomlNode with
  | error fault => simpa [Except.toOption] using (hresult fault).1.symm
  | ok types => simp [Except.toOption]

theorem ofJson_eq_iff (h : JsonText json t) {result : Except LoadError Catalog}
    (hresult : IsCommon result) :
    Catalog.ofJson json = result
      ↔ ∃ types, (Catalog.shape.read .jsonText t.jsonNode).toOption = some types
          ∧ Catalog.ofDecoded types = result := by
  rw [Catalog.ofJson, decode_json h]
  cases Catalog.shape.read .jsonText t.jsonNode with
  | error fault => simpa [Except.toOption] using (hresult fault).2.symm
  | ok types => simp [Except.toOption]

theorem load_agrees (hregular : isRegular t = true) (hdistinct : t.isDistinct = true)
    (htoml : TomlText toml t) (hjson : JsonText json t) {result : Except LoadError Catalog}
    (hresult : IsCommon result) :
    Catalog.ofToml toml = result ↔ Catalog.ofJson json = result ∧ t.isNarrow = true := by
  rw [ofToml_eq_iff htoml hresult, ofJson_eq_iff hjson hresult]
  simp only [catalog_agrees hregular hdistinct _]
  constructor
  · rintro ⟨types, ⟨hread, hnarrow⟩, hload⟩
    exact ⟨⟨types, hread, hload⟩, hnarrow⟩
  · rintro ⟨⟨types, hread, hload⟩, hnarrow⟩
    exact ⟨types, ⟨hread, hnarrow⟩, hload⟩

end

/-- What a TOML text and a JSON text of one tree have in common. -/
structure SameCatalog (t : Tree) (toml json : String) : Prop where
  /-- Both load, and give the same catalog, or neither does. -/
  loads : t.isNarrow = true → ∀ c, Catalog.ofToml toml = .ok c ↔ Catalog.ofJson json = .ok c
  /-- Both fail for the same repeated name, or neither does. -/
  repeats : t.isNarrow = true → ∀ name,
    Catalog.ofToml toml = .error (.duplicateType name)
      ↔ Catalog.ofJson json = .error (.duplicateType name)
  /-- An integer that TOML does not have keeps its text from loading, wherever it stands. -/
  wide : t.isNarrow = false → ∀ c, Catalog.ofToml toml ≠ .ok c

/-- What it is for a document to mean the same in both formats. -/
structure OneMeaning (members : List (String × Tree)) : Prop where
  /-- There are texts of the document, unless it is nested too deeply for TOML. -/
  written : Tree.membersDepth members ≤ Toml.depthLimit →
    ∃ toml json, TomlText toml (.table members) ∧ JsonText json (.table members)
  /-- All texts of the document agree, however they are laid out. -/
  agreed : ∀ toml json, TomlText toml (.table members) → JsonText json (.table members) →
    SameCatalog (.table members) toml json

/-- A catalog means the same in TOML and in JSON. -/
theorem one_meaning {members : List (String × Tree)}
    (hdistinct : (Tree.table members).isDistinct = true)
    (hregular : isRegular (.table members) = true) : OneMeaning members where
  written hdepth := ⟨_, _, Toml.parse?_render hdistinct hdepth, jsonText_render _⟩
  agreed toml json htoml hjson := by
    have hloads (c : Catalog) : Catalog.ofToml toml = .ok c
        ↔ Catalog.ofJson json = .ok c ∧ (Tree.table members).isNarrow = true :=
      load_agrees hregular hdistinct htoml hjson (isCommon_ok c)
    have hrepeats (name : String) : Catalog.ofToml toml = .error (.duplicateType name)
        ↔ Catalog.ofJson json = .error (.duplicateType name)
          ∧ (Tree.table members).isNarrow = true :=
      load_agrees hregular hdistinct htoml hjson (isCommon_duplicateType name)
    constructor
    · intro hnarrow c
      rw [hloads, hnarrow, and_iff_left rfl]
    · intro hnarrow name
      rw [hrepeats, hnarrow, and_iff_left rfl]
    · intro hwide c hload
      rw [hloads, hwide] at hload
      cases hload.2

/-- A catalog with a marked record, one component, and entries that no record looks at. -/
def pantry : List (String × Tree) := [
  ("types", .list [.table [
    ("name", .text "Coffee"),
    ("kind", .text "record"),
    ("grams", .integer (-250)),
    ("beanerate", .table []),
    ("components", .list [.table [("type", .text "int"), ("name", .text "strength")]])]]),
  ("checked", .boolean true)]

/-- What both formats load for it. -/
def pantryTypes : List HostType :=
  [⟨"Coffee", .record, [], none, some Marker.plain, [⟨"strength", "int"⟩]⟩]

theorem pantry_one_meaning : (Tree.table pantry).isDistinct = true
    ∧ isRegular (.table pantry) = true
    ∧ ∃ toml json, TomlText toml (.table pantry) ∧ JsonText json (.table pantry)
      ∧ ∃ c, c.types = pantryTypes ∧ Catalog.ofToml toml = .ok c ∧ Catalog.ofJson json = .ok c := by
  have hmeaning : OneMeaning pantry := one_meaning (by decide) (by decide)
  obtain ⟨toml, json, htoml, hjson⟩ := hmeaning.written (by decide)
  have hload : Catalog.ofJson json = .ok ⟨pantryTypes, by decide⟩ :=
    (ofJson_eq_iff hjson (isCommon_ok _)).mpr ⟨pantryTypes, by decide +kernel, rfl⟩
  refine ⟨by decide, by decide, toml, json, htoml, hjson, _, rfl, ?_, hload⟩
  exact ((hmeaning.agreed toml json htoml hjson).loads (by decide) _).mpr hload

/-! ## Integers beyond TOML -/

/-- A document whose only entry is looked at by no record. -/
def beyond : List (String × Tree) := [("x", .integer (twoTo 128))]

/-- The integer keeps the TOML text from loading, while the JSON text is an empty catalog. -/
theorem beyond_loads_as_json : (Tree.table beyond).isDistinct = true
    ∧ isRegular (.table beyond) = true
    ∧ TomlText "\"x\"=340282366920938463463374607431768211456\n" (.table beyond)
    ∧ JsonText "\x7b\"x\":340282366920938463463374607431768211456\x7d" (.table beyond)
    ∧ Catalog.ofJson "\x7b\"x\":340282366920938463463374607431768211456\x7d"
        = .ok Catalog.empty
    ∧ ∀ c, Catalog.ofToml "\"x\"=340282366920938463463374607431768211456\n" ≠ .ok c := by
  have hdistinct : (Tree.table beyond).isDistinct = true := by decide
  have hregular : isRegular (.table beyond) = true := by decide
  have htoml : TomlText "\"x\"=340282366920938463463374607431768211456\n" (.table beyond) := by
    have hrender : Toml.render beyond = "\"x\"=340282366920938463463374607431768211456\n" := by
      decide +kernel
    rw [← hrender]
    exact Toml.parse?_render hdistinct (by decide)
  have hjson : JsonText "\x7b\"x\":340282366920938463463374607431768211456\x7d"
      (.table beyond) := by
    have hrender : (Tree.table beyond).json.render
        = "\x7b\"x\":340282366920938463463374607431768211456\x7d" := by
      decide +kernel
    rw [← hrender]
    exact jsonText_render _
  refine ⟨hdistinct, hregular, htoml, hjson, ?_, ?_⟩
  · refine (ofJson_eq_iff hjson (isCommon_ok _)).mpr ⟨[], ?_, rfl⟩
    rw [toOption_eq_some, Tree.jsonNode_table]
    simp only [Shape.read]
    rw [Shape.readTable_eq_ok_iff Catalog.shape_separate]
    refine ⟨by decide, ?_, by decide, rfl⟩
    intro e he _
    obtain ⟨m, -, rfl⟩ := List.mem_map.mp he
    exact skipFault?_jsonNode m.2
  · intro c hload
    have hnarrow := (load_agrees hregular hdistinct htoml hjson (isCommon_ok c)).mp hload
    exact absurd hnarrow.2 (by decide)

end RecordBean.Formats
