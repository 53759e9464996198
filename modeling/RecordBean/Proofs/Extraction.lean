import RecordBean.Extraction
import RecordBean.Proofs.QualifiedName

/-! # Extraction, seen from its result

A schema comes out exactly if the host type is a record, its package contradicts nothing and its
components pass; what comes out is then settled by the host type alone, apart from the nesting of
the fields. The package of a qualified name is its qualifier, whatever else is given. -/

namespace RecordBean.Extraction
open RecordBean.Name

/-- What is extracted from a host type that passes all checks. -/
def schemaOf (catalog : Catalog) (settings : Settings) (h : HostType) : Schema where
  qualifiedName := h.name
  simpleName := (splitQualified h.name).2
  packageName := packageOf settings h
  visibility := .ofModifiers h.modifiers
  fields := h.components.map (fieldOf catalog (packageOf settings h))
  extraAnnotations := (h.marker.getD Marker.plain).annotations
  extraInterfaces := (h.marker.getD Marker.plain).interfaces

theorem extract_eq_ok_iff {catalog : Catalog} {settings : Settings} {h : HostType} {s : Schema} :
    extract catalog settings h = .ok s ↔
      h.kind = .record ∧ packageConflict? h = none ∧
        checkComponents h.name [] h.components = .ok () ∧ s = schemaOf catalog settings h := by
  unfold extract
  split
  · rename_i hk
    split
    · rename_i derived package hc
      simp [hc]
    · rename_i hc
      split
      · rename_i e he
        simp [he]
      · rename_i he
        simp only [hk, hc, he, true_and, Except.ok.injEq]
        exact eq_comm
  · rename_i hk
    simp [hk]

theorem extract_eq_schemaOf {catalog : Catalog} {settings : Settings} {h : HostType} {s : Schema}
    (hs : extract catalog settings h = .ok s) : s = schemaOf catalog settings h :=
  (extract_eq_ok_iff.mp hs).2.2.2

/-! ## Packages -/

/-- The explicit package of a qualified name can only repeat the qualifier. -/
theorem packageOf_of_qualified {settings : Settings} {h : HostType} {derived : String}
    (hc : packageConflict? h = none) (hd : (splitQualified h.name).1 = some derived) :
    packageOf settings h = some derived := by
  unfold packageConflict? at hc
  unfold packageOf
  rw [hd] at hc ⊢
  cases hp : h.package with
  | none => rfl
  | some package =>
    rw [hp] at hc
    by_cases he : package = derived
    · rw [he]
      rfl
    · simp [he] at hc

/-- A bare name takes the explicit package, else the one of the settings. -/
theorem packageOf_of_isSimple {settings : Settings} {h : HostType} (hs : IsSimple h.name) :
    packageOf settings h = (h.package <|> settings.defaultPackage) := by
  unfold packageOf
  rw [splitQualified_of_isSimple hs]
  cases h.package <;> rfl

/-- The bean of a qualified record lies beside it. -/
theorem qualify_packageOf {settings : Settings} {h : HostType} (hc : packageConflict? h = none)
    (hq : ¬ IsSimple h.name) :
    qualify (packageOf settings h) (splitQualified h.name).2 = h.name := by
  cases hd : (splitQualified h.name).1 with
  | none => exact absurd (isSimple_of_fst_eq_none hd) hq
  | some derived =>
    rw [packageOf_of_qualified hc hd, ← hd]
    exact qualify_splitQualified h.name

end RecordBean.Extraction
