import RecordBean.Text.Numeric
import RecordBean.Text.LetterCase

/-! # Names

How the names in a bean follow from the names in its record: the bean's own name, the accessor
suffix of a component, the parts of a qualified name, and which words can be names at all.
-/

namespace RecordBean.Name
open RecordBean.Text

/-- What is appended to the name of a record to name its bean. -/
def beanSuffix : String := "Bean"

/-- The name of the bean of a record; also the storage type of a component of that record type. -/
def companion (name : String) : String := name ++ beanSuffix

/-- Upper case for the first character and lower case for all others. -/
def capitalizeChars : List Char → List Char
  | [] => []
  | c :: rest => toUpper c ++ rest.flatMap toLower

/-- The accessor suffix of a component. The tail goes to lower case too, so that a camel-cased name
loses its inner humps. -/
def capitalize (name : String) : String := String.ofList (capitalizeChars name.toList)

/-- Split at the last occurrence of a character, which goes to neither part. -/
def splitAtLast (separator : Char) : List Char → Option (List Char × List Char)
  | [] => none
  | c :: rest =>
    match splitAtLast separator rest with
    | some (before, after) => some (c :: before, after)
    | none => if c = separator then some ([], rest) else none

/-- The package of a qualified name, if it has a dot, and its simple name. -/
def splitQualified (name : String) : Option String × String :=
  match splitAtLast '.' name.toList with
  | some (before, after) => (some (String.ofList before), String.ofList after)
  | none => (none, name)

/-- The qualified name of a class in a package, or in the unnamed one. -/
def qualify (package : Option String) (simple : String) : String :=
  match package with
  | some p => p ++ "." ++ simple
  | none => simple

/-- The words that cannot be names, the literals among them. -/
def reserved : List String := [
  "abstract", "assert", "boolean", "break", "byte", "case", "catch", "char", "class", "const",
  "continue", "default", "do", "double", "else", "enum", "extends", "final", "finally", "float",
  "for", "goto", "if", "implements", "import", "instanceof", "int", "interface", "long",
  "native", "new", "package", "private", "protected", "public", "return", "short", "static",
  "strictfp", "super", "switch", "synchronized", "this", "throw", "throws", "transient", "try",
  "void", "volatile", "while", "true", "false", "null", "_"]

def isInitial (c : Char) : Bool := isAlphabetic c || c == '_' || c == '$'

def isContinuing (c : Char) : Bool := isAlphanumeric c || c == '_' || c == '$'

/-- Whether the characters have the shape of a name, reserved or not. -/
def hasNameShape : List Char → Bool
  | [] => false
  | c :: rest => isInitial c && rest.all isContinuing

/-- Whether a text can name a field or a class. -/
def isIdentifier (name : String) : Bool := hasNameShape name.toList && !reserved.contains name

/-- The first character of a name could stand anywhere in it. -/
theorem isContinuing_of_isInitial {c : Char} (h : isInitial c = true) : isContinuing c = true := by
  simp only [isInitial, isContinuing, isAlphanumeric, Bool.or_eq_true] at *
  rcases h with (h | h) | h <;> simp [h]

theorem splitAtLast_eq_none {separator : Char} {cs : List Char} :
    splitAtLast separator cs = none ↔ separator ∉ cs := by
  induction cs with
  | nil => simp [splitAtLast]
  | cons c rest ih =>
    rw [splitAtLast]
    cases h : splitAtLast separator rest with
    | some parts =>
      have : separator ∈ rest := by
        rw [h] at ih
        simpa using ih
      simp [this]
    | none =>
      have hr : separator ∉ rest := ih.mp h
      by_cases hc : c = separator
      · simp [hc]
      · simp [hc, hr, Ne.symm hc]

theorem splitAtLast_middle {separator : Char} {before after : List Char}
    (h : separator ∉ after) :
    splitAtLast separator (before ++ separator :: after) = some (before, after) := by
  induction before with
  | nil =>
    rw [List.nil_append, splitAtLast, splitAtLast_eq_none.mpr h]
    exact if_pos rfl
  | cons c before ih => rw [List.cons_append, splitAtLast, ih]

/-- The parts give the whole back, and the second one is free of the separator. -/
theorem splitAtLast_eq_some {separator : Char} {cs before after : List Char} :
    splitAtLast separator cs = some (before, after) ↔
      cs = before ++ separator :: after ∧ separator ∉ after := by
  constructor
  · intro h
    induction cs generalizing before with
    | nil => cases h
    | cons c rest ih =>
      rw [splitAtLast] at h
      cases hr : splitAtLast separator rest with
      | some parts =>
        rw [hr] at h
        cases h
        obtain ⟨hrest, hn⟩ := ih hr
        exact ⟨congrArg (c :: ·) hrest, hn⟩
      | none =>
        simp only [hr, Option.ite_none_right_eq_some, Option.some.injEq, Prod.mk.injEq] at h
        obtain ⟨rfl, rfl, rfl⟩ := h
        exact ⟨rfl, splitAtLast_eq_none.mp hr⟩
  · rintro ⟨rfl, hn⟩
    exact splitAtLast_middle hn

end RecordBean.Name
