import RecordBean.Encoding
import RecordBean.Proofs.Decoding
import RecordBean.Proofs.JsonText

/-! # Decoding what was encoded

Every value that is written as JSON is read back as it was. An encoder and a reader belong together
when the reader takes the tree of every encoded value back to that value; lists and optional values
inherit this from what they hold, variants have it by their labels, and records by their rules, each
of which finds its field under its own name. -/

namespace RecordBean.Restoration
open RecordBean.Document RecordBean.Json

variable {α : Type}

/-- A reader that undoes an encoder. -/
structure Restores (encode : α → Json) (read : Reader α) : Prop where
  exact : ∀ v, (encode v).isExact = true
  value : ∀ v, read .jsonText (encode v).tree = .ok v

namespace Restores

theorem text : Restores Json.text readText := ⟨fun _ => rfl, fun _ => rfl⟩

theorem path : Restores Json.text readPath := ⟨fun _ => rfl, fun _ => rfl⟩

theorem boolean : Restores Json.boolean readBoolean := ⟨fun _ => rfl, fun _ => rfl⟩

variable {encode : α → Json} {read : Reader α}

theorem areExact_map (h : Restores encode read) (values : List α) :
    areExact (values.map encode) = true := by
  induction values with
  | nil => rfl
  | cons v values ih => simp [areExact, h.exact v, ih]

theorem mapM_trees (h : Restores encode read) (values : List α) :
    (trees (values.map encode)).mapM (read .jsonText) = .ok values := by
  induction values with
  | nil => rfl
  | cons v values ih =>
    simp [trees, h.value v, ih, bind, Except.bind, pure, Except.pure]

protected theorem list (h : Restores encode read) :
    Restores (Json.ofList encode) (readList read) where
  exact values := h.areExact_map values
  value values := by
    simp only [Json.ofList, tree, readList, h.mapM_trees values]

theorem texts : Restores Json.ofTexts readTexts := text.list

/-- Null is left for the value that is missing. -/
protected theorem option (h : Restores encode read) (hnull : ∀ v, (encode v).tree ≠ .null) :
    Restores (Json.ofOption encode) (readOption read) where
  exact v := by
    cases v with
    | none => rfl
    | some v => exact h.exact v
  value v := by
    cases v with
    | none => rfl
    | some v =>
      have hvalue := h.value v
      simp only [Json.ofOption, readOption]
      split
      · next heq => exact absurd heq (hnull v)
      · simp [hvalue, Except.map]

theorem variant {label : α → String} {labels : List String} {ofLabel? : String → Option α}
    (h : ∀ v, ofLabel? (label v) = some v) :
    Restores (fun v => Json.text (label v)) (readVariant labels ofLabel?) where
  exact _ := rfl
  value v := by simp [tree, readVariant, knownVariant, h v]

/-- A rule that restores the member of its name. -/
theorem takeAll_of (h : Restores encode read) {β : Type} {name : String} {presence : Presence}
    {set : α → β → β} {rules : List (FieldRule β)} {entries : List (String × Node)} {b : β} {v : α}
    (hlookup : entries.lookup name = some (encode v).tree) :
    FieldRule.takeAll (.of name presence read set :: rules) .jsonText entries b
      = FieldRule.takeAll rules .jsonText entries (set v b) := by
  have htake : (FieldRule.of name presence read set).take .jsonText entries b
      = some (set v b) := by
    have hname : (FieldRule.of name presence read set).name = name := rfl
    rw [FieldRule.take, hname, hlookup]
    simp only [FieldRule.of_read_toOption, h.value v]
    rfl
  rw [FieldRule.takeAll_cons, htake]
  rfl

/-- A record is restored if its members have the names of the rules and every rule restores the
member of its name. -/
theorem record {s : Shape α} {members : α → List (String × Json)} (hs : s.Separate)
    (hexact : ∀ v, areExactMembers (members v) = true)
    (hnames : ∀ v, (memberTrees (members v)).map (·.1) = s.rules.map (·.name))
    (hvalue : ∀ v, FieldRule.takeAll s.rules .jsonText (memberTrees (members v)) s.initial
      = some v) :
    Restores (fun v => Json.object (members v)) s.read where
  exact v := hexact v
  value v := s.readTable_of_perm hs (.of_eq (hnames v)) (hvalue v)

/-- Decoding the text of a value gives the value. -/
theorem decode_render (h : Restores encode read) (v : α) :
    decode read (encode v).render = .ok v := by
  rw [Json.decode_render read (h.exact v), h.value v]

end Restores

/-! ## The types that are encoded -/

theorem kind_restores : Restores Kind.toJson Kind.read := .variant Kind.ofLabel?_label

theorem visibility_restores : Restores Visibility.toJson Visibility.read :=
  .variant Visibility.ofLabel?_label

theorem marker_restores : Restores Marker.toJson Marker.shape.read := by
  refine .record Marker.shape_separate (fun m => ?_) (fun _ => rfl) (fun m => ?_)
  · simp [areExactMembers, Restores.texts.exact]
  · rw [Marker.shape, Restores.texts.takeAll_of rfl, Restores.texts.takeAll_of rfl]
    rfl

theorem component_restores : Restores Component.toJson Component.shape.read := by
  refine .record Component.shape_separate (fun _ => rfl) (fun _ => rfl) (fun c => ?_)
  rw [Component.shape, Restores.text.takeAll_of rfl, Restores.text.takeAll_of rfl]
  rfl

theorem hostType_restores : Restores HostType.toJson HostType.shape.read := by
  have hpackage := Restores.text.option (fun _ => nofun)
  have hmarker := marker_restores.option (fun _ => nofun)
  have hcomponents := component_restores.list
  refine .record HostType.shape_separate (fun h => ?_) (fun _ => rfl) (fun h => ?_)
  · simp [areExactMembers, Restores.text.exact, kind_restores.exact, Restores.texts.exact,
      hpackage.exact, hmarker.exact, hcomponents.exact]
  · rw [HostType.shape, Restores.text.takeAll_of rfl, kind_restores.takeAll_of rfl,
      Restores.texts.takeAll_of rfl, hpackage.takeAll_of rfl, hmarker.takeAll_of rfl,
      hcomponents.takeAll_of rfl]
    rfl

theorem field_restores : Restores Field.toJson Field.shape.read := by
  refine .record Field.shape_separate (fun _ => rfl) (fun _ => rfl) (fun f => ?_)
  rw [Field.shape, Restores.text.takeAll_of rfl, Restores.text.takeAll_of rfl,
    Restores.boolean.takeAll_of rfl]
  rfl

theorem schema_restores : Restores Schema.toJson Schema.shape.read := by
  have hpackage := Restores.text.option (fun _ => nofun)
  have hfields := field_restores.list
  refine .record Schema.shape_separate (fun s => ?_) (fun _ => rfl) (fun s => ?_)
  · simp [Schema.jsonMembers, areExactMembers, Restores.text.exact, visibility_restores.exact,
      Restores.texts.exact, hpackage.exact, hfields.exact]
  · rw [Schema.shape, Restores.text.takeAll_of rfl, Restores.text.takeAll_of rfl,
      hpackage.takeAll_of rfl, visibility_restores.takeAll_of rfl, hfields.takeAll_of rfl,
      Restores.texts.takeAll_of rfl, Restores.texts.takeAll_of rfl]
    rfl

theorem settings_restores : Restores Settings.toJson Settings.shape.read := by
  have hpackage := Restores.text.option (fun _ => nofun)
  refine .record Settings.shape_separate (fun s => ?_) (fun _ => rfl) (fun s => ?_)
  · simp [areExactMembers, Restores.text.exact, Restores.boolean.exact, hpackage.exact]
  · rw [Settings.shape, Restores.path.takeAll_of rfl, hpackage.takeAll_of rfl,
      Restores.boolean.takeAll_of rfl, Restores.text.takeAll_of rfl, Restores.text.takeAll_of rfl]
    rfl

/-! ## Texts -/

/-- What can be relied on in values that are kept as JSON text. -/
structure Survives (encode : α → Json) (read : Reader α) : Prop where
  /-- The text of a value decodes to that value. -/
  written : ∀ v, decode read (encode v).render = .ok v
  /-- Writing a value that was decoded from some text, however that text was laid out, does not
  change what is decoded. -/
  rewritten : ∀ text v, decode read text = .ok v →
    decode read (encode v).render = decode read text
  /-- Values are told apart by their texts. -/
  distinct : ∀ v w, (encode v).render = (encode w).render → v = w

theorem Restores.survives {encode : α → Json} {read : Reader α} (h : Restores encode read) :
    Survives encode read where
  written := h.decode_render
  rewritten text v hv := by rw [h.decode_render v, hv]
  distinct v w heq := by
    have hv := h.decode_render v
    rw [heq, h.decode_render w] at hv
    cases hv
    rfl

/-- Every type that is encoded. -/
structure AllSurvive : Prop where
  hostTypes : Survives HostType.toJson HostType.shape.read
  markers : Survives Marker.toJson Marker.shape.read
  components : Survives Component.toJson Component.shape.read
  kinds : Survives Kind.toJson Kind.read
  fields : Survives Field.toJson Field.shape.read
  schemas : Survives Schema.toJson Schema.shape.read
  visibilities : Survives Visibility.toJson Visibility.read
  settings : Survives Settings.toJson Settings.shape.read

/-- Decoding undoes encoding, for every type and every value of it. -/
theorem all_survive : AllSurvive where
  hostTypes := hostType_restores.survives
  markers := marker_restores.survives
  components := component_restores.survives
  kinds := kind_restores.survives
  fields := field_restores.survives
  schemas := schema_restores.survives
  visibilities := visibility_restores.survives
  settings := settings_restores.survives

end RecordBean.Restoration
