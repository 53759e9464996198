import Mathlib
import RecordBean.Proofs.MethodNames

/-! # Accessor clashes in ASCII

The accessor suffix treats the first character of a name and all others differently, and yet what it
loses of an ASCII name is the letter case alone: upper and lower case of one letter go to the same
letter in either place. So two ASCII fields clash exactly if their names differ in nothing but
letter case. Beyond ASCII this fails, since there are letters whose upper case is an ASCII one. -/

namespace RecordBean.Clashes
open RecordBean.Text RecordBean.SourceFile RecordBean.MethodNames

def IsAscii (text : String) : Prop := ∀ c ∈ text.toList, c.toNat < 128

-- The search for an instance can end at one that goes through all characters there are.
instance (text : String) : Decidable (IsAscii text) :=
  List.decidableBAll (fun c : Char => c.toNat < 128) text.toList

/-- Whether two texts are equal up to the case of ASCII letters. -/
def SameLetters (a b : String) : Prop := a.toList.map Char.toLower = b.toList.map Char.toLower

instance (a b : String) : Decidable (SameLetters a b) :=
  inferInstanceAs (Decidable (a.toList.map Char.toLower = b.toList.map Char.toLower))

/-! ## Suffixes -/

/-- Either case of an ASCII letter tells which letter it is, and nothing more. -/
theorem toUpper_eq_toUpper_iff {c d : Char} : c.toUpper = d.toUpper ↔ c.toLower = d.toLower := by
  constructor
  · intro he
    rw [← Char.toLower_toUpper_eq_toLower c, he, Char.toLower_toUpper_eq_toLower]
  · intro he
    rw [← Char.toUpper_toLower_eq_toUpper c, he, Char.toUpper_toLower_eq_toUpper]

theorem capitalizeChars_eq_iff {cs ds : List Char} (hcs : ∀ c ∈ cs, c.toNat < 128)
    (hds : ∀ d ∈ ds, d.toNat < 128) :
    Name.capitalizeChars cs = Name.capitalizeChars ds ↔
      cs.map Char.toLower = ds.map Char.toLower := by
  -- a name and an empty one differ on both sides
  cases cs with
  | nil =>
    cases ds with
    | nil => exact iff_of_true rfl rfl
    | cons d rest =>
      rw [capitalizeChars_ascii hds]
      exact iff_of_false (List.cons_ne_nil _ _).symm (List.cons_ne_nil _ _).symm
  | cons c front =>
    cases ds with
    | nil =>
      rw [capitalizeChars_ascii hcs]
      exact iff_of_false (List.cons_ne_nil _ _) (List.cons_ne_nil _ _)
    | cons d rest =>
      rw [capitalizeChars_ascii hcs, capitalizeChars_ascii hds, List.map_cons, List.map_cons,
        List.cons_eq_cons, List.cons_eq_cons, toUpper_eq_toUpper_iff]

theorem capitalize_eq_iff {a b : String} (ha : IsAscii a) (hb : IsAscii b) :
    Name.capitalize a = Name.capitalize b ↔ SameLetters a b := by
  unfold Name.capitalize
  rw [String.ofList_inj]
  exact capitalizeChars_eq_iff ha hb

example : Name.capitalize "\u017Fize" = Name.capitalize "size" := by decide +kernel

/-! ## Fields -/

/-- Identifiers in ASCII can be the fields of one class exactly if no two of them are the same up to
letter case. -/
theorem areNamed_iff_pairwise {fields : List Field} (hascii : ∀ f ∈ fields, IsAscii f.name)
    (hid : ∀ f ∈ fields, Name.isIdentifier f.name = true) :
    AreNamed fields ↔ fields.Pairwise fun f g => ¬ SameLetters f.name g.name := by
  have hdistinct : (fields.map (·.capName)).Nodup ↔
      fields.Pairwise fun f g => ¬ SameLetters f.name g.name := by
    rw [List.Nodup, List.pairwise_map]
    apply List.Pairwise.iff_of_mem
    intro f g hf hg
    exact not_congr (capitalize_eq_iff (hascii f hf) (hascii g hg))
  rw [← hdistinct]
  exact ⟨fun h => h.distinct, fun h => ⟨hid, h⟩⟩

/-- The order of the fields has no say in whether they can stand in one class. -/
theorem areNamed_perm {fields others : List Field} (h : others.Perm fields) :
    AreNamed others ↔ AreNamed fields := by
  have himp : ∀ {as bs : List Field}, as.Perm bs → AreNamed as → AreNamed bs := by
    intro as bs hp hn
    exact ⟨fun f hf => hn.identifiers f (hp.mem_iff.mpr hf),
      (hp.map (·.capName)).nodup_iff.mp hn.distinct⟩
  exact ⟨himp h, himp h.symm⟩

/-- The suffixes of two ASCII names are equal exactly if the names are equal up to letter case.
Hence a schema with ASCII identifiers is rendered exactly if no two field names are equal up to
letter case. Whether a schema is rendered never depends on the order of its fields. -/
theorem clashes_ignore_case :
    (∀ a b, IsAscii a → IsAscii b → (Name.capitalize a = Name.capitalize b ↔ SameLetters a b)) ∧
    (∀ (s : Schema) (header : String),
      (∀ name ∈ s.simpleName :: s.fields.map (·.name),
        IsAscii name ∧ Name.isIdentifier name = true) →
      ((∃ text, renderOwn s header = .ok text) ↔
        s.fields.Pairwise fun f g => ¬ SameLetters f.name g.name)) ∧
    (∀ (s : Schema) (header : String) (fields : List Field), fields.Perm s.fields →
      ((∃ text, renderOwn { s with fields := fields } header = .ok text) ↔
        ∃ text, renderOwn s header = .ok text)) := by
  refine ⟨fun a b => capitalize_eq_iff, ?_, ?_⟩
  · intro s header hnames
    obtain ⟨⟨-, hsimple⟩, hfields⟩ := List.forall_mem_cons.mp hnames
    rw [List.forall_mem_map] at hfields
    rw [exists_renderOwn_iff, and_iff_right hsimple]
    exact areNamed_iff_pairwise (fun f hf => (hfields f hf).1) fun f hf => (hfields f hf).2
  · intro s header fields hp
    rw [exists_renderOwn_iff, exists_renderOwn_iff]
    exact and_congr_right fun _ => areNamed_perm hp

/-- A schema whose fields have the given names. -/
def cup (names : List String) : Schema :=
  ⟨"Cup", "Cup", none, .packagePrivate, names.map fun name => ⟨name, "int", false⟩, [], []⟩

theorem cups_clash :
    Name.capitalize "fillLevel" = Name.capitalize "FILLlevel" ∧
    (∃ text, renderOwn (cup ["size", "fillLevel"]) "" = .ok text) ∧
    (∃ text, renderOwn (cup ["fillLevel", "size"]) "" = .ok text) ∧
    ¬ ∃ text, renderOwn (cup ["FILLlevel", "size", "fillLevel"]) "" = .ok text := by
  obtain ⟨hcap, hrender, hperm⟩ := clashes_ignore_case
  have hfine : ∃ text, renderOwn (cup ["size", "fillLevel"]) "" = .ok text :=
    (hrender (cup ["size", "fillLevel"]) "" (by decide +kernel)).mpr (by decide)
  have hclash : ¬ (cup ["FILLlevel", "size", "fillLevel"]).fields.Pairwise
      fun f g => ¬ SameLetters f.name g.name := by decide
  refine ⟨(hcap _ _ (by decide) (by decide)).mpr (by decide), hfine, ?_, ?_⟩
  · exact (hperm (cup ["size", "fillLevel"]) "" _ (.swap _ _ [])).mpr hfine
  · intro hr
    exact hclash ((hrender _ "" (by decide +kernel)).mp hr)

end RecordBean.Clashes
