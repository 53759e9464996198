import RecordBean.Proofs.Accessors
import RecordBean.Proofs.Reading.Concatenation

/-! # What a bean shows

The text that the `toString` of a bean gives, from the operands that are printed. Whatever texts the
fields show as, it is the name of the bean with all fields in brackets, in order, each as
`name=value`. That the value behind a name is the one of its own field needs distinct names. -/

namespace RecordBean.Showing
open RecordBean.Text RecordBean.Reading RecordBean.SourceFile RecordBean.Recovery

/-! ## Evaluation -/

/-- The text of an operand, given the text of every field of the object. -/
def operand (field : String → Option String) : Part → Option String
  | .literal text => some text
  | .field name => field name

/-- The text of a concatenation. A name without a field gives none. -/
def concatenation (field : String → Option String) : List Part → Option String
  | [] => some ""
  | p :: parts => do
    let first ← operand field p
    let others ← concatenation field parts
    some (first ++ others)

/-- The text behind a name, given the texts of the fields. -/
def valueOf (fields : List Field) (shown : Field → String) (name : String) : Option String :=
  (fields.find? (·.name == name)).map shown

/-- How a field is shown. -/
def entry (shown : Field → String) (f : Field) : String := f.name ++ "=" ++ shown f

section
variable {field : String → Option String}

theorem concatenation_cons {p : Part} {parts : List Part} {text rest : String}
    (hp : operand field p = some text) (hrest : concatenation field parts = some rest) :
    concatenation field (p :: parts) = some (text ++ rest) := by
  rw [concatenation, hp, hrest]
  rfl

theorem concatenation_append {a b : List Part} {x y : String} (ha : concatenation field a = some x)
    (hb : concatenation field b = some y) : concatenation field (a ++ b) = some (x ++ y) := by
  induction a generalizing x with
  | nil =>
    rw [← Option.some.inj ha, String.empty_append]
    exact hb
  | cons p parts ih =>
    rw [concatenation] at ha
    obtain ⟨first, hfirst, ha⟩ := Option.bind_eq_some_iff.mp ha
    obtain ⟨others, hothers, ha⟩ := Option.bind_eq_some_iff.mp ha
    rw [List.cons_append, concatenation_cons hfirst (ih hothers), ← Option.some.inj ha,
      String.append_assoc]

/-- The operands of the fields give their entries, with a separator between neighbours. -/
theorem concatenation_shownParts {fields : List Field} {shown : Field → String}
    (h : ∀ f ∈ fields, field f.name = some (shown f)) :
    concatenation field (shownParts fields) = some (commaSeparated (fields.map (entry shown))) := by
  have hpair : ∀ f ∈ fields, concatenation field [.literal (f.name ++ "="), .field f.name] =
      some (entry shown f) := by
    intro f hf
    have hvalue := concatenation_cons (p := .field f.name) (h f hf) (concatenation.eq_1 field)
    rw [concatenation_cons rfl hvalue, String.append_empty]
    rfl
  unfold commaSeparated
  clear h
  fun_induction shownParts fields with
  | case1 => rfl
  | case2 f => exact hpair f List.mem_cons_self
  | case3 f g rest ih =>
    rw [List.forall_mem_cons] at hpair
    obtain ⟨hfirst, hothers⟩ := hpair
    have hseparator : concatenation field [.literal ", "] = some ", " := by
      rw [concatenation_cons rfl (concatenation.eq_1 field), String.append_empty]
    have hall := concatenation_append (concatenation_append hfirst hseparator) (ih hothers)
    simpa [joined] using hall

end

/-! ## The text of a bean -/

/-- Different names lead to different fields. -/
theorem valueOf_name {fields : List Field} (h : AreNamed fields) (shown : Field → String)
    {f : Field} (hf : f ∈ fields) : valueOf fields shown f.name = some (shown f) := by
  have hfind : fields.find? (·.name == f.name) = some f := by
    rw [← List.head?_filter, Accessors.filter_key_eq_singleton h.nodup_names hf]
    rfl
  rw [valueOf, hfind, Option.map_some]

theorem concatenation_partsOf {fields : List Field} {names : TypeNames} {shown : Field → String}
    {field : String → Option String} (h : ∀ f ∈ fields, field f.name = some (shown f)) :
    concatenation field (partsOf fields names) =
      some (names.bean ++ "[" ++ commaSeparated (fields.map (entry shown)) ++ "]") := by
  have hend : concatenation field [.literal "]"] = some "]" := by
    rw [concatenation_cons rfl (concatenation.eq_1 field), String.append_empty]
  unfold partsOf
  cases fields with
  | nil =>
    have hempty : names.bean ++ "[]" = names.bean ++ "[" ++ "" ++ "]" := by
      apply String.toList_injective
      simp
    rw [List.isEmpty_nil, if_pos rfl, concatenation_cons rfl (concatenation.eq_1 field),
      String.append_empty, hempty]
    rfl
  | cons f rest =>
    have hall := concatenation_append (concatenation_shownParts h) hend
    rw [List.isEmpty_cons, if_neg Bool.false_ne_true, concatenation_cons rfl hall,
      ← String.append_assoc]

theorem count_separators (fields : List Field) :
    (shownParts fields).count (.literal ", ") = fields.length - 1 := by
  have hne (name : String) : Part.literal (name ++ "=") ≠ .literal ", " := by
    intro he
    have hlast := congrArg (fun text : String => text.toList.getLast?) (Part.literal.inj he)
    simp at hlast
  fun_induction shownParts fields with
  | case1 => rfl
  | case2 f => simp [hne]
  | case3 f g rest ih =>
    rw [List.count_append, ih]
    simp [hne]
    omega

theorem count_partsOf (fields : List Field) (names : TypeNames) :
    (partsOf fields names).count (.literal ", ") = fields.length - 1 := by
  have hne (text : String) (h : text.toList.getLast? ≠ some ' ') :
      Part.literal text ≠ .literal ", " := by
    rintro he
    rw [Part.literal.inj he] at h
    exact h rfl
  have hopen : Part.literal (names.bean ++ "[") ≠ .literal ", " := hne _ (by simp)
  have hempty : Part.literal (names.bean ++ "[]") ≠ .literal ", " := hne _ (by simp)
  unfold partsOf
  cases fields with
  | nil => simp [hempty]
  | cons f rest =>
    have hend : Part.literal "]" ≠ .literal ", " := by decide
    rw [List.isEmpty_cons, if_neg Bool.false_ne_true, List.count_cons_of_ne hopen,
      List.count_append, count_separators, List.count_singleton]
    simp [hend]

/-- The `toString` of every bean that is rendered returns a concatenation. Its value is the name of
the bean with the entries of all fields in brackets, in order, for any texts that the fields show
as, and its literals hold one separator less than there are fields. -/
theorem toString_shows {s : Schema} {header text : String} (h : renderOwn s header = .ok text) :
    ∃ parts, readToString (Members.of s).toString = some parts ∧
      (∀ shown : Field → String, concatenation (valueOf s.fields shown) parts =
        some (s.beanName ++ "[" ++ commaSeparated (s.fields.map (entry shown)) ++ "]")) ∧
      parts.count (.literal ", ") = s.fields.length - 1 := by
  obtain ⟨hs, hn⟩ := isWord_of_renderOwn h
  have hnamed : AreNamed s.fields := (exists_renderOwn_iff.mp ⟨text, h⟩).2
  refine ⟨partsOf s.fields (TypeNames.of s), readToString_toString (isWord_beanName hs) hn, ?_,
    count_partsOf s.fields _⟩
  intro shown
  exact concatenation_partsOf fun f hf => valueOf_name hnamed shown hf

/-- A coffee bean without a taste. -/
theorem coffee_toString_shows :
    ∃ text, renderOwn coffee defaultHeader = .ok text ∧
      ∃ parts, readToString (Members.of coffee).toString = some parts ∧
        concatenation (valueOf coffee.fields fun f => if f.isNested then "null" else "none") parts =
          some "CoffeeBean[taste=null, prices=none]" ∧
        parts.count (.literal ", ") = 1 := by
  obtain ⟨text, h⟩ := exists_renderOwn_coffee
  obtain ⟨parts, hparts, hshown, hcount⟩ := toString_shows h
  refine ⟨text, h, parts, hparts, ?_, hcount⟩
  rw [hshown]
  decide

end RecordBean.Showing
