import RecordBean.Proofs.FirstFault
import RecordBean.Proofs.Header
import RecordBean.Proofs.Reference

/-! # What extraction comes to

For every host type it can be said, without going through its components one by one, which schema
comes out or which error: the kind is looked at first, then the package, then the first component
that is blank or repeats a name. `Outcome` says so for each result, and extraction gives exactly the
result of which it is true. -/

namespace RecordBean.ExtractionOutcome
open RecordBean.Name RecordBean.Extraction RecordBean.FirstFault RecordBean.Reference

/-! ## Packages -/

/-- Whether an explicit package differs from what stands before the last dot of the name. -/
structure Contradicts (h : HostType) (derived package : String) : Prop where
  explicit : h.package = some package
  qualified : ∃ simple, IsSimple simple ∧ h.name = qualify (some derived) simple
  differs : package ≠ derived

theorem packageConflict?_eq_some_iff {h : HostType} {derived package : String} :
    packageConflict? h = some (derived, package) ↔ Contradicts h derived package := by
  have hcontradicts : Contradicts h derived package ↔
      h.package = some package ∧ (splitQualified h.name).1 = some derived ∧ package ≠ derived := by
    rw [fst_splitQualified_eq_some_iff]
    exact ⟨fun hc => ⟨hc.explicit, hc.qualified, hc.differs⟩, fun ⟨he, hq, hd⟩ => ⟨he, hq, hd⟩⟩
  rw [hcontradicts]
  unfold packageConflict?
  cases h.package with
  | none => simp
  | some p =>
    cases (splitQualified h.name).1 with
    | none => simp
    | some d =>
      by_cases hp : p = d
      · simp only [hp, if_true, Option.some.injEq]
        refine iff_of_false (by simp) ?_
        rintro ⟨rfl, rfl, hne⟩
        exact hne rfl
      · simp only [if_neg hp, Option.some.injEq, Prod.mk.injEq]
        constructor
        · rintro ⟨rfl, rfl⟩
          exact ⟨rfl, rfl, hp⟩
        · rintro ⟨rfl, rfl, -⟩
          exact ⟨rfl, rfl⟩

/-! ## Components -/

/-- Whether nothing is left of the name or of the type when the white space is trimmed. -/
def IsBlank (c : Component) : Prop := Text.trim c.name = "" ∨ Text.trim c.type = ""

/-- Whether a component is blank or has the name of one in front of it. -/
def IsFaulty (front : List Component) (c : Component) : Prop :=
  IsBlank c ∨ c.name ∈ front.map (·.name)

theorem trim_eq_empty_iff {text : String} : Text.trim text = "" ↔ Text.allBlank text = true := by
  rw [Header.allBlank_iff, ← Header.trimChars_eq_nil_iff, Text.trim, String.ofList_eq_empty_iff]

theorem isIncomplete_iff {c : Component} : isIncomplete c = true ↔ IsBlank c := by
  rw [isIncomplete, Bool.or_eq_true_iff, IsBlank, trim_eq_empty_iff, trim_eq_empty_iff]

/-- What is said about a component behind others. -/
def fault? (typeName : String) (front : List Component) (c : Component) : Option ExtractError :=
  if isIncomplete c then some (.emptyComponent typeName)
  else if c.name ∈ front.map (·.name) then some (.duplicateComponent typeName c.name)
  else none

section
variable {typeName : String} {front : List Component} {c : Component}

theorem fault?_eq_empty_iff {name : String} :
    fault? typeName front c = some (.emptyComponent name) ↔ IsBlank c ∧ name = typeName := by
  rw [fault?, ← isIncomplete_iff]
  split
  · rename_i hi
    simp [hi, eq_comm]
  · rename_i hi
    split <;> simp [hi]

theorem fault?_eq_duplicate_iff {name component : String} :
    fault? typeName front c = some (.duplicateComponent name component) ↔
      ¬ IsBlank c ∧ c.name ∈ front.map (·.name) ∧ name = typeName ∧ component = c.name := by
  rw [fault?, ← isIncomplete_iff]
  split
  · rename_i hi
    simp [hi]
  · rename_i hi
    split
    · rename_i hm
      simp only [hi, hm, Option.some.injEq, ExtractError.duplicateComponent.injEq]
      simp [eq_comm]
    · rename_i hm
      simp [hm]

/-- Components have no other faults. -/
theorem fault?_cases {e : ExtractError} (h : fault? typeName front c = some e) :
    e = .emptyComponent typeName ∨ e = .duplicateComponent typeName c.name := by
  unfold fault? at h
  split at h
  · exact Or.inl (Option.some.inj h).symm
  · split at h
    · exact Or.inr (Option.some.inj h).symm
    · cases h

theorem isFaulty_iff : IsFaulty front c ↔ fault? typeName front c ≠ none := by
  rw [IsFaulty, ← isIncomplete_iff, fault?]
  split
  · rename_i hi
    simp [hi]
  · rename_i hi
    simp [hi]

end

/-- The names that are remembered are those of the components passed, the last one first. -/
theorem scans_checkComponents (typeName : String) :
    Scans IsFaulty (fault? typeName)
      (fun front => checkComponents typeName (front.map (·.name)).reverse) where
  faulty_iff _ _ := isFaulty_iff
  done _ := rfl
  next front c rest := by
    rw [checkComponents, fault?]
    by_cases hi : isIncomplete c = true
    · rw [if_pos hi, if_pos hi]
    · rw [if_neg hi, if_neg hi]
      by_cases hm : c.name ∈ front.map (·.name)
      · rw [if_pos hm, if_pos (List.mem_reverse.mpr hm)]
      · rw [if_neg hm, if_neg (List.mem_reverse.not.mpr hm), List.map_append, List.reverse_append]
        rfl

section
variable {typeName : String} {components : List Component}

theorem checkComponents_eq_ok_iff :
    checkComponents typeName [] components = .ok () ↔ IsFaultless IsFaulty components :=
  (scans_checkComponents typeName).eq_ok_iff

theorem checkComponents_eq_error_iff {e : ExtractError} :
    checkComponents typeName [] components = .error e ↔
      ∃ front c, IsFirst IsFaulty components front c ∧ fault? typeName front c = some e :=
  (scans_checkComponents typeName).eq_error_iff

end

/-! ## Fields -/

/-- Whether a field stands for a component of a type in a package. -/
structure StandsFor (catalog : Catalog) (package : Option String) (f : Field) (c : Component) :
    Prop where
  name : f.name = c.name
  type : f.declaredType = c.type
  nested : f.isNested = true ↔ ∃ target, IsMeant catalog package c.type target ∧
    target.kind = .record ∧ target.marker ≠ none

theorem isNested_fieldOf_iff {catalog : Catalog} {package : Option String} {c : Component} :
    (fieldOf catalog package c).isNested = true ↔ ∃ target,
      IsMeant catalog package c.type target ∧ target.kind = .record ∧ target.marker ≠ none := by
  have hbean (target : HostType) :
      target.hasBean = true ↔ target.kind = .record ∧ target.marker ≠ none := by
    simp [HostType.hasBean, HostType.isMarked, Option.isSome_iff_ne_none]
  simp only [fieldOf, Option.any_eq_true, resolve?_eq_some_iff, hbean]

theorem standsFor_iff {catalog : Catalog} {package : Option String} {f : Field} {c : Component} :
    StandsFor catalog package f c ↔ f = fieldOf catalog package c := by
  constructor
  · rintro ⟨hname, htype, hnested⟩
    rw [← isNested_fieldOf_iff] at hnested
    obtain ⟨name, type, isNested⟩ := f
    cases hname
    cases htype
    have hflag : isNested = (fieldOf catalog package c).isNested := Bool.eq_iff_iff.mpr hnested
    rw [hflag]
    rfl
  · rintro rfl
    exact ⟨rfl, rfl, isNested_fieldOf_iff⟩

theorem forall₂_standsFor_iff {catalog : Catalog} {package : Option String} {fields : List Field}
    {components : List Component} :
    List.Forall₂ (StandsFor catalog package) fields components ↔
      fields = components.map (fieldOf catalog package) := by
  have hrelation : StandsFor catalog package = fun f c => f = fieldOf catalog package c := by
    funext f c
    exact propext standsFor_iff
  rw [hrelation, ← List.forall₂_map_right_iff (R := fun f g => f = g), List.forall₂_eq_eq_eq]

/-! ## The outcome -/

/-- Whether a level of access is the one that modifiers declare. -/
def IsDeclared (modifiers : List String) : Visibility → Prop
  | .public => "public" ∈ modifiers
  | .protected => "public" ∉ modifiers ∧ "protected" ∈ modifiers
  | .private => "public" ∉ modifiers ∧ "protected" ∉ modifiers ∧ "private" ∈ modifiers
  | .packagePrivate => "public" ∉ modifiers ∧ "protected" ∉ modifiers ∧ "private" ∉ modifiers

theorem isDeclared_iff {modifiers : List String} {v : Visibility} :
    IsDeclared modifiers v ↔ v = .ofModifiers modifiers := by
  unfold Visibility.ofModifiers
  by_cases hpublic : "public" ∈ modifiers <;> by_cases hprotected : "protected" ∈ modifiers <;>
    by_cases hprivate : "private" ∈ modifiers <;>
    cases v <;> simp [IsDeclared, hpublic, hprotected, hprivate]

/-- Whether a schema is the one of a host type. -/
structure IsSchemaOf (catalog : Catalog) (settings : Settings) (h : HostType) (s : Schema) :
    Prop where
  qualifiedName : s.qualifiedName = h.name
  /-- The simple name is what stands behind the last dot. The package is the explicit one, else what
  stands before that dot, else the one of the settings. -/
  placed : ∃ qualifier, IsSimple s.simpleName ∧ h.name = qualify qualifier s.simpleName ∧
    s.packageName = ((h.package <|> qualifier) <|> settings.defaultPackage)
  visibility : IsDeclared h.modifiers s.visibility
  fields : List.Forall₂ (StandsFor catalog s.packageName) s.fields h.components
  annotations : s.extraAnnotations = (h.marker.map (·.annotations)).getD []
  interfaces : s.extraInterfaces = (h.marker.map (·.interfaces)).getD []

theorem isSchemaOf_iff {catalog : Catalog} {settings : Settings} {h : HostType} {s : Schema} :
    IsSchemaOf catalog settings h s ↔ s = schemaOf catalog settings h := by
  have hmarker {α : Type} (f : Marker → List α) (hf : f Marker.plain = []) :
      (h.marker.map f).getD [] = f (h.marker.getD Marker.plain) := by
    cases h.marker with
    | none => exact hf.symm
    | some m => rfl
  constructor
  · rintro ⟨hname, ⟨qualifier, hsimple, hplace, hpackage⟩, hvisibility, hfields, hannotations,
      hinterfaces⟩
    have hsplit : splitQualified h.name = (qualifier, s.simpleName) := by
      rw [hplace, splitQualified_qualify qualifier hsimple]
    have hsimpleName : s.simpleName = (splitQualified h.name).2 := by rw [hsplit]
    have hpackageName : s.packageName = packageOf settings h := by
      rw [packageOf, hsplit, hpackage]
    rw [forall₂_standsFor_iff, hpackageName] at hfields
    rw [isDeclared_iff] at hvisibility
    rw [hmarker (·.annotations) rfl] at hannotations
    rw [hmarker (·.interfaces) rfl] at hinterfaces
    obtain ⟨⟩ := s
    simp only at hname hsimpleName hpackageName hvisibility hfields hannotations hinterfaces
    rw [hname, hsimpleName, hpackageName, hvisibility, hfields, hannotations, hinterfaces]
    rfl
  · rintro rfl
    refine ⟨rfl, ⟨(splitQualified h.name).1, isSimple_splitQualified h.name, ?_, rfl⟩,
      isDeclared_iff.mpr rfl, forall₂_standsFor_iff.mpr rfl, (hmarker (·.annotations) rfl).symm,
      (hmarker (·.interfaces) rfl).symm⟩
    exact (qualify_splitQualified h.name).symm

/-- Whether the components of a host type are looked at: it is a record, and its package contradicts
nothing. -/
def IsPlaced (h : HostType) : Prop :=
  h.kind = .record ∧ ∀ derived package, ¬ Contradicts h derived package

/-- What has to be true of a host type for each result of extraction. -/
def Outcome (catalog : Catalog) (settings : Settings) (h : HostType) :
    Except ExtractError Schema → Prop
  | .error (.notARecord typeName kind) =>
    h.kind ≠ .record ∧ typeName = h.name ∧ kind = h.kind.label
  | .error (.packageMismatch typeName derived package) =>
    h.kind = .record ∧ Contradicts h derived package ∧ typeName = h.name
  | .error (.emptyComponent typeName) =>
    IsPlaced h ∧ ∃ front c, IsFirst IsFaulty h.components front c ∧ IsBlank c ∧ typeName = h.name
  | .error (.duplicateComponent typeName component) =>
    IsPlaced h ∧ ∃ front c, IsFirst IsFaulty h.components front c ∧ ¬ IsBlank c ∧
      typeName = h.name ∧ component = c.name
  | .ok s => IsPlaced h ∧ IsFaultless IsFaulty h.components ∧ IsSchemaOf catalog settings h s

theorem isPlaced_iff {h : HostType} :
    IsPlaced h ↔ h.kind = .record ∧ packageConflict? h = none := by
  unfold IsPlaced
  simp only [← packageConflict?_eq_some_iff, Option.eq_none_iff_forall_ne_some, Prod.forall, Ne]

/-- The four ways in which extraction can end, by the checks that decide. -/
theorem extract_cases (catalog : Catalog) (settings : Settings) (h : HostType) :
    (h.kind ≠ .record ∧
      extract catalog settings h = .error (.notARecord h.name h.kind.label)) ∨
    (h.kind = .record ∧ ∃ derived package, packageConflict? h = some (derived, package) ∧
      extract catalog settings h = .error (.packageMismatch h.name derived package)) ∨
    (h.kind = .record ∧ packageConflict? h = none ∧
      ∃ e, checkComponents h.name [] h.components = .error e ∧
        extract catalog settings h = .error e) ∨
    (h.kind = .record ∧ packageConflict? h = none ∧
      checkComponents h.name [] h.components = .ok () ∧
        extract catalog settings h = .ok (schemaOf catalog settings h)) := by
  unfold extract
  split
  · rename_i hk
    refine Or.inr ?_
    split
    · rename_i derived package hc
      exact Or.inl ⟨hk, derived, package, hc, rfl⟩
    · rename_i hc
      refine Or.inr ?_
      split
      · rename_i e he
        exact Or.inl ⟨hk, hc, e, he, rfl⟩
      · rename_i hok
        exact Or.inr ⟨hk, hc, hok, rfl⟩
  · rename_i hk
    exact Or.inl ⟨hk, rfl⟩

section
variable {catalog : Catalog} {settings : Settings} {h : HostType}

/-- What is no record has one result only. -/
theorem outcome_iff_of_ne_record (hk : h.kind ≠ .record) {result : Except ExtractError Schema} :
    Outcome catalog settings h result ↔ result = .error (.notARecord h.name h.kind.label) := by
  cases result with
  | ok s => exact iff_of_false (fun ho => hk ho.1.1) (by simp)
  | error e =>
    cases e with
    | notARecord name kind => simp [Outcome, hk]
    | packageMismatch => exact iff_of_false (fun ho => hk ho.1) (by simp)
    | emptyComponent => exact iff_of_false (fun ho => hk ho.1.1) (by simp)
    | duplicateComponent => exact iff_of_false (fun ho => hk ho.1.1) (by simp)

/-- So has a record whose package contradicts its name. -/
theorem outcome_iff_of_conflict (hk : h.kind = .record) {derived package : String}
    (hc : packageConflict? h = some (derived, package)) {result : Except ExtractError Schema} :
    Outcome catalog settings h result ↔
      result = .error (.packageMismatch h.name derived package) := by
  have hcontradicts := packageConflict?_eq_some_iff.mp hc
  cases result with
  | ok s => exact iff_of_false (fun ho => ho.1.2 _ _ hcontradicts) (by simp)
  | error e =>
    cases e with
    | notARecord => exact iff_of_false (fun ho => ho.1 hk) (by simp)
    | packageMismatch name d p =>
      simp only [Outcome, ← packageConflict?_eq_some_iff, hc, hk, true_and, Except.error.injEq,
        ExtractError.packageMismatch.injEq, Option.some.injEq, Prod.mk.injEq]
      constructor
      · rintro ⟨⟨hd, hp⟩, hn⟩
        exact ⟨hn, hd.symm, hp.symm⟩
      · rintro ⟨hn, hd, hp⟩
        exact ⟨⟨hd.symm, hp.symm⟩, hn⟩
    | emptyComponent => exact iff_of_false (fun ho => ho.1.2 _ _ hcontradicts) (by simp)
    | duplicateComponent => exact iff_of_false (fun ho => ho.1.2 _ _ hcontradicts) (by simp)

/-- Behind the first two checks, the components decide about the error. -/
theorem outcome_error_iff (hp : IsPlaced h) {e : ExtractError} :
    Outcome catalog settings h (.error e) ↔ checkComponents h.name [] h.components = .error e := by
  rw [checkComponents_eq_error_iff]
  cases e with
  | notARecord name kind =>
    refine iff_of_false (fun ho => ho.1 hp.1) ?_
    rintro ⟨front, c, -, hc⟩
    rcases fault?_cases hc with he | he <;> cases he
  | packageMismatch name derived package =>
    refine iff_of_false (fun ho => hp.2 derived package ho.2.1) ?_
    rintro ⟨front, c, -, hc⟩
    rcases fault?_cases hc with he | he <;> cases he
  | emptyComponent name => simp only [Outcome, hp, true_and, fault?_eq_empty_iff]
  | duplicateComponent name component =>
    simp only [Outcome, hp, true_and, fault?_eq_duplicate_iff]
    -- a first fault that is not blank repeats a name
    refine exists_congr fun front => exists_congr fun c => and_congr_right fun hfirst =>
      and_congr_right fun hblank => ?_
    exact (and_iff_right (hfirst.fault.resolve_left hblank)).symm

theorem outcome_ok_iff (hp : IsPlaced h) {s : Schema} :
    Outcome catalog settings h (.ok s) ↔
      checkComponents h.name [] h.components = .ok () ∧ s = schemaOf catalog settings h := by
  simp only [Outcome, hp, true_and, checkComponents_eq_ok_iff, isSchemaOf_iff]

end

/-- Extraction gives exactly the result whose condition the host type meets. -/
theorem extract_eq_iff_outcome (catalog : Catalog) (settings : Settings) (h : HostType)
    (result : Except ExtractError Schema) :
    extract catalog settings h = result ↔ Outcome catalog settings h result := by
  rcases extract_cases catalog settings h with
    ⟨hk, he⟩ | ⟨hk, derived, package, hc, he⟩ | ⟨hk, hc, e, hf, he⟩ | ⟨hk, hc, hf, he⟩
  · rw [he, outcome_iff_of_ne_record hk, eq_comm]
  · rw [he, outcome_iff_of_conflict hk hc, eq_comm]
  · have hp := isPlaced_iff.mpr ⟨hk, hc⟩
    rw [he]
    cases result with
    | ok s =>
      rw [outcome_ok_iff hp, hf]
      simp
    | error e' =>
      rw [outcome_error_iff hp, hf, Except.error.injEq, Except.error.injEq]
  · have hp := isPlaced_iff.mpr ⟨hk, hc⟩
    rw [he]
    cases result with
    | ok s =>
      rw [outcome_ok_iff hp, hf, Except.ok.injEq, eq_comm]
      simp
    | error e' =>
      rw [outcome_error_iff hp, hf]
      simp

/-- A component that is blank and also repeats a name counts as blank. -/
example :
    extract .empty .default ⟨"A", .record, [], none, none, [⟨"a", "int"⟩, ⟨"a", "\t"⟩]⟩ =
      .error (.emptyComponent "A") := by
  rfl

end RecordBean.ExtractionOutcome
