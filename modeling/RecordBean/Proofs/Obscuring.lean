import Mathlib.Data.List.TakeWhile
import RecordBean.Proofs.Accessors
import RecordBean.Proofs.QualifiedName
import RecordBean.Proofs.Reading.Arguments
import RecordBean.Proofs.Reading.Conditions
import RecordBean.Proofs.Recovery

/-! # Classes that fields hide

The members of a bean call two kinds of static methods: `Objects.hash`, and `fromRecord` of the bean
of every nested field. Where the name in front of such a call begins with the name of a variable in
scope, the variable is meant and the class is not reached. In scope are the fields, and inside
`fromRecord` its parameter `record` too. The calls are read from the printed members together with
the variables, and all of them reach their classes exactly if the names of the fields keep clear of
a few words (`HasClearNames`). The check of a schema does not look for these. -/

namespace RecordBean.Obscuring
open RecordBean.Name RecordBean.Reading RecordBean.SourceFile RecordBean.Recovery
  RecordBean.Accessors

/-! ## Names in front of calls -/

/-- The part of a name up to its first dot. -/
def firstPart (name : String) : String := String.ofList (name.toList.takeWhile (· != '.'))

theorem firstPart_of_isSimple {name : String} (h : IsSimple name) : firstPart name = name := by
  have hall : name.toList.takeWhile (· != '.') = name.toList := by
    rw [List.takeWhile_eq_self_iff]
    rintro c hc
    rw [bne_iff_ne]
    rintro rfl
    exact h hc
  unfold firstPart
  rw [hall, String.ofList_toList]

/-- What is put behind a qualified name has no part in how it begins. -/
theorem firstPart_append {name : String} (h : ¬ IsSimple name) (suffix : String) :
    firstPart (name ++ suffix) = firstPart name := by
  unfold IsSimple at h
  rw [not_not, List.mem_iff_append] at h
  obtain ⟨front, behind, hname⟩ := h
  unfold firstPart
  rw [String.toList_append, hname, List.append_assoc, List.cons_append]
  simp [List.takeWhile_append]

theorem companion_ne_record (name : String) : companion name ≠ "record" := by
  intro h
  have hlast := congrArg (fun text => text.toList.getLast?) h
  have hsuffix : beanSuffix.toList = ['B', 'e', 'a', 'n'] := rfl
  simp [companion, hsuffix] at hlast

/-- A call of a static method: the class as it is written, and the variables in scope. -/
structure StaticCall where
  className : String
  scope : List String
deriving DecidableEq, Repr

/-- Whether the class is meant. A variable with the name that stands first would win over it. -/
def StaticCall.Reaches (c : StaticCall) : Prop := firstPart c.className ∉ c.scope

instance (c : StaticCall) : Decidable c.Reaches :=
  inferInstanceAs (Decidable (firstPart c.className ∉ c.scope))

/-! ## Reading the calls -/

/-- The classes whose `fromRecord` an expression calls. -/
def converters : Expr → List String
  | .component _ | .getter _ => []
  | .fromRecord type value => type :: converters value
  | .toRecord value => converters value
  | .unlessNull tested result => converters tested ++ converters result

/-- The calls of static methods in the members. The readers accept no other hash than the one of
`Objects`, and no other parameter of `fromRecord` than `record`. -/
def readCalls (names : TypeNames) (m : Members) : Option (List StaticCall) := do
  let c ← readClass (lines m.accessors)
  let _ ← readEquality m.equality
  let arguments ← readFromRecord names m.fromRecord
  some (⟨"Objects", c.slots⟩ :: (arguments.flatMap converters).map (⟨·, "record" :: c.slots⟩))

/-- The calls in the members for some fields. -/
def callsOf (fields : List Field) : List StaticCall :=
  ⟨"Objects", fields.map (·.name)⟩ ::
    (fields.filter (·.isNested)).map fun f => ⟨f.beanType, "record" :: fields.map (·.name)⟩

/-- A nested field is converted by its bean, and no other field is. -/
theorem flatMap_converters (fields : List Field) :
    (fields.map Expr.ofRecord).flatMap converters =
      (fields.filter (·.isNested)).map Field.beanType := by
  induction fields with
  | nil => rfl
  | cons f rest ih =>
    rw [List.map_cons, List.flatMap_cons, ih]
    cases hf : f.isNested with
    | true => simp [Expr.ofRecord, converters, hf]
    | false => simp [Expr.ofRecord, converters, hf]

theorem readCalls_of {s : Schema} {header text : String} (h : renderOwn s header = .ok text)
    (hlines : ∀ f ∈ s.fields, '\n' ∉ f.declaredType.toList)
    (htypes : ∀ f ∈ s.nestedFields, IsTypeName f.declaredType) :
    readCalls (TypeNames.of s) (Members.of s) = some (callsOf s.fields) := by
  obtain ⟨hs, hn⟩ := isWord_of_renderOwn h
  have hclass : readClass (lines (Members.of s).accessors) = some (classOf s.fields) := by
    rw [lines_accessors hs hn hlines]
    exact readClass_accessorLines (notMem_beanName hs (by decide)) [[]] hn rfl rfl
  have hequality : readEquality (Members.of s).equality =
      some (equalityOf s.fields (TypeNames.of s)) := readEquality_equality (isWord_beanName hs) hn
  have hlegible : ∀ f ∈ s.fields, IsLegible f := fun f hf =>
    ⟨hn f hf, fun hnested => htypes f (List.mem_filter.mpr ⟨hf, hnested⟩)⟩
  have hconversion : readFromRecord (TypeNames.of s) (Members.of s).fromRecord =
      some (s.fields.map Expr.ofRecord) := readFromRecord_fromRecord (TypeNames.of s) hlegible
  unfold readCalls
  simp only [hclass, hequality, hconversion, Option.bind_eq_bind, Option.bind_some]
  rw [flatMap_converters, List.map_map]
  rfl

/-! ## Which calls reach their classes -/

/-- Whether the names of the fields keep clear of the classes that are called. -/
structure HasClearNames (fields : List Field) : Prop where
  objects : ∀ g ∈ fields, g.name ≠ "Objects"
  /-- The bean of a nested type without a qualifier goes by its own name. -/
  bare : ∀ f ∈ fields, f.isNested = true → IsSimple f.declaredType →
    ∀ g ∈ fields, g.name ≠ companion f.declaredType
  /-- A qualifier goes by its first part, which the parameter can hide as well. -/
  qualified : ∀ f ∈ fields, f.isNested = true → ¬ IsSimple f.declaredType →
    firstPart f.declaredType ≠ "record" ∧ ∀ g ∈ fields, g.name ≠ firstPart f.declaredType

section
variable {fields : List Field}

theorem reaches_objects_iff :
    (StaticCall.mk "Objects" (fields.map (·.name))).Reaches ↔ ∀ g ∈ fields, g.name ≠ "Objects" := by
  have hfirst : firstPart "Objects" = "Objects" := firstPart_of_isSimple (by decide)
  unfold StaticCall.Reaches
  rw [hfirst, List.mem_map]
  simp

theorem reaches_converter_iff {f : Field} (hf : f.isNested = true) :
    (StaticCall.mk f.beanType ("record" :: fields.map (·.name))).Reaches ↔
      if IsSimple f.declaredType then ∀ g ∈ fields, g.name ≠ companion f.declaredType
      else firstPart f.declaredType ≠ "record" ∧
        ∀ g ∈ fields, g.name ≠ firstPart f.declaredType := by
  have htype : f.beanType = companion f.declaredType := if_pos hf
  unfold StaticCall.Reaches
  rw [htype]
  by_cases hs : IsSimple f.declaredType
  · have hfirst : firstPart (companion f.declaredType) = companion f.declaredType :=
      firstPart_of_isSimple hs.companion
    rw [if_pos hs, hfirst]
    simp [companion_ne_record]
  · have hfirst : firstPart (companion f.declaredType) = firstPart f.declaredType :=
      firstPart_append hs beanSuffix
    rw [if_neg hs, hfirst]
    simp

theorem reach_iff : (∀ c ∈ callsOf fields, c.Reaches) ↔ HasClearNames fields := by
  unfold callsOf
  rw [List.forall_mem_cons, reaches_objects_iff, List.forall_mem_map]
  simp only [List.mem_filter]
  constructor
  · rintro ⟨hobjects, hnested⟩
    refine ⟨hobjects, ?_, ?_⟩
    · intro f hf hn hs
      have hreach := (reaches_converter_iff hn).mp (hnested f ⟨hf, hn⟩)
      rwa [if_pos hs] at hreach
    · intro f hf hn hs
      have hreach := (reaches_converter_iff hn).mp (hnested f ⟨hf, hn⟩)
      rwa [if_neg hs] at hreach
  · rintro ⟨hobjects, hbare, hqualified⟩
    refine ⟨hobjects, ?_⟩
    rintro f ⟨hf, hn⟩
    refine (reaches_converter_iff hn).mpr ?_
    split
    · rename_i hs
      exact hbare f hf hn hs
    · rename_i hs
      exact hqualified f hf hn hs

end

/-- The calls of a rendered bean are those of `Objects` and of the beans of its nested fields, and
all of them reach their classes exactly if the names of the fields keep clear. -/
theorem calls_reach_iff {s : Schema} {header text : String} (h : renderOwn s header = .ok text) :
    ((∀ f ∈ s.fields, '\n' ∉ f.declaredType.toList) →
      (∀ f ∈ s.nestedFields, IsTypeName f.declaredType) →
        readCalls (TypeNames.of s) (Members.of s) = some (callsOf s.fields)) ∧
    ((∀ c ∈ callsOf s.fields, c.Reaches) ↔ HasClearNames s.fields) :=
  ⟨readCalls_of h, reach_iff⟩

/-- A coffee bean reaches `Objects` and the bean of its taste. -/
theorem coffee_calls_reach :
    ∃ text, renderOwn coffee defaultHeader = .ok text ∧
      readCalls (TypeNames.of coffee) (Members.of coffee) = some [
        ⟨"Objects", ["taste", "prices"]⟩, ⟨"TasteBean", ["record", "taste", "prices"]⟩] ∧
      HasClearNames coffee.fields := by
  obtain ⟨text, h⟩ := exists_renderOwn_coffee
  obtain ⟨hread, hreach⟩ := calls_reach_iff h
  exact ⟨text, h, hread (by decide) (by decide), hreach.mp (by decide)⟩

/-- A record with components that are called like the class of the hash and like the package of a
nested type. -/
def shelf : Schema where
  qualifiedName := "Shelf"
  simpleName := "Shelf"
  packageName := none
  visibility := .public
  fields := [⟨"Objects", "String", false⟩, ⟨"demo", "int", false⟩, ⟨"taste", "demo.Taste", true⟩]
  extraAnnotations := []
  extraInterfaces := []

/-- Its bean is written, and no call in it reaches its class. -/
theorem shelf_hides_classes :
    ∃ text, renderOwn shelf defaultHeader = .ok text ∧
      (∃ f ∈ shelf.fields, f.name = "Objects") ∧
      readCalls (TypeNames.of shelf) (Members.of shelf) = some (callsOf shelf.fields) ∧
      callsOf shelf.fields = [⟨"Objects", ["Objects", "demo", "taste"]⟩,
        ⟨"demo.TasteBean", ["record", "Objects", "demo", "taste"]⟩] ∧
      ∀ c ∈ callsOf shelf.fields, ¬ c.Reaches := by
  have h : renderOwn shelf defaultHeader = .ok _ := rfl
  exact ⟨_, h, by decide, readCalls_of h (by decide) (by decide), by decide, by decide⟩

end RecordBean.Obscuring
