import Mathlib.Tactic.SplitIfs
import RecordBean.Decoding
import RecordBean.Json

/-! # Decoding records from tables

The entries of a table are read one after another, each into the record built so far. When no two
rules set the same field, that comes to the same as going through the rules and looking up the entry
of each: the order of the entries and the entries that no rule knows have no part in the value. The
record is read exactly when no known entry is given twice, the unknown ones can be passed over, the
required ones are there, and each rule reads its entry. -/

namespace RecordBean.Document
variable {α β γ : Type}

theorem toOption_eq_some {x : Except β α} {a : α} : x.toOption = some a ↔ x = .ok a := by
  cases x <;> simp [Except.toOption]

/-! ## Passing over -/

theorem skipItems_eq_none {items : List Node} :
    skipItems items = none ↔ ∀ n ∈ items, n.skipFault? = none := by
  induction items with
  | nil => simp [skipItems]
  | cons n items ih => simp [skipItems, ih]

theorem skipEntries_eq_none {entries : List (String × Node)} :
    skipEntries (Json.namedEntries entries) = none ↔ ∀ e ∈ entries, e.2.skipFault? = none := by
  induction entries with
  | nil => simp [Json.namedEntries, skipEntries]
  | cons e entries ih =>
    rw [Json.namedEntries] at ih ⊢
    simp [skipEntries, Key.skipFault?, ih]

theorem skipFault?_list {items : List Node} :
    (Node.list items none).skipFault? = none ↔ ∀ n ∈ items, n.skipFault? = none := by
  simp [Node.skipFault?, skipItems_eq_none]

theorem skipFault?_table {entries : List (String × Node)} :
    (Node.table (Json.namedEntries entries) none).skipFault? = none
      ↔ ∀ e ∈ entries, e.2.skipFault? = none := by
  simp [Node.skipFault?, skipEntries_eq_none]

/-! ## Rules -/

namespace FieldRule

/-- The value after two rules does not depend on which of them reads first. -/
def Commutes (r t : FieldRule α) : Prop :=
  ∀ (d : Dialect) (m n : Node) (a : α),
    ((r.read d m a).toOption.bind fun a => (t.read d n a).toOption)
      = (t.read d n a).toOption.bind fun a => (r.read d m a).toOption

theorem of_read_toOption (name : String) (presence : Presence) (read : Reader β) (set : β → α → α)
    (d : Dialect) (n : Node) (a : α) :
    ((FieldRule.of name presence read set).read d n a).toOption
      = (read d n).toOption.map (set · a) := by
  simp only [FieldRule.of]
  cases read d n <;> rfl

theorem of_commutes {name₁ name₂ : String} {presence₁ presence₂ : Presence} {read₁ : Reader β}
    {read₂ : Reader γ} {set₁ : β → α → α} {set₂ : γ → α → α}
    (h : ∀ v w a, set₂ w (set₁ v a) = set₁ v (set₂ w a)) :
    (FieldRule.of name₁ presence₁ read₁ set₁).Commutes
      (FieldRule.of name₂ presence₂ read₂ set₂) := by
  intro d m n a
  simp only [of_read_toOption]
  cases (read₁ d m).toOption <;> cases (read₂ d n).toOption <;> simp [h]

/-- Read the entry of a rule. Without one the record stays as it is. -/
def take (r : FieldRule α) (d : Dialect) (entries : List (String × Node)) (a : α) : Option α :=
  match entries.lookup r.name with
  | none => some a
  | some n => (r.read d n a).toOption

/-- Go through the rules and read the entry of each. -/
def takeAll (rules : List (FieldRule α)) (d : Dialect) (entries : List (String × Node)) (a : α) :
    Option α :=
  rules.foldlM (fun a r => r.take d entries a) a

variable {d : Dialect} {entries : List (String × Node)}

theorem takeAll_cons (r : FieldRule α) (rules : List (FieldRule α)) (a : α) :
    takeAll (r :: rules) d entries a = (r.take d entries a).bind (takeAll rules d entries) := by
  simp only [takeAll, List.foldlM_cons]
  rfl

theorem takeAll_nil (rules : List (FieldRule α)) (a : α) : takeAll rules d [] a = some a := by
  induction rules with
  | nil => rfl
  | cons r rules ih => rw [takeAll_cons]; exact ih

theorem take_cons_of_ne {r : FieldRule α} {name : String} (h : r.name ≠ name) (n : Node) :
    r.take d ((name, n) :: entries) = r.take d entries := by
  funext a
  have hne : (r.name == name) = false := beq_false_of_ne h
  simp only [take, List.lookup_cons, hne]

theorem take_cons_self (r : FieldRule α) (n : Node) (a : α) :
    r.take d ((r.name, n) :: entries) a = (r.read d n a).toOption := by
  simp [take]

/-- An entry that no rule knows makes no difference. -/
theorem takeAll_cons_of_unknown {rules : List (FieldRule α)} {name : String}
    (h : ∀ r ∈ rules, r.name ≠ name) (n : Node) (a : α) :
    takeAll rules d ((name, n) :: entries) a = takeAll rules d entries a := by
  induction rules generalizing a with
  | nil => rfl
  | cons r rules ih =>
    rw [List.forall_mem_cons] at h
    rw [takeAll_cons, takeAll_cons, take_cons_of_ne h.1]
    congr 1
    funext a
    exact ih h.2 a

/-- A rule that has read its entry, of which there is no other, reads nothing more. -/
theorem take_of_not_mem {r : FieldRule α} (h : r.name ∉ entries.map (·.1)) (a : α) :
    r.take d entries a = some a := by
  have hnone : entries.lookup r.name = none := by
    rw [List.lookup_eq_none_iff]
    intro e he
    have hne : r.name ≠ e.1 := fun heq => h (List.mem_map.mpr ⟨e, he, heq.symm⟩)
    simpa using hne
  simp only [take, hnone]

theorem Commutes.take {r t : FieldRule α} (h : t.Commutes r) (n : Node) (a : α) :
    ((t.take d entries a).bind fun a => (r.read d n a).toOption)
      = (r.read d n a).toOption.bind (t.take d entries) := by
  cases hlookup : entries.lookup t.name with
  | none =>
    have htake : t.take d entries = some := by
      funext b
      simp only [FieldRule.take, hlookup]
    rw [htake]
    simp
  | some m =>
    have htake : t.take d entries = fun b => (t.read d m b).toOption := by
      funext b
      simp only [FieldRule.take, hlookup]
    rw [htake]
    exact h d m n a

/-- The first entry can be read before all others. -/
theorem takeAll_cons_of_mem {rules : List (FieldRule α)} {r : FieldRule α}
    (hnames : (rules.map (·.name)).Nodup) (hcommutes : rules.Pairwise Commutes)
    (hr : r ∈ rules) (hother : r.name ∉ entries.map (·.1)) (n : Node) (a : α) :
    takeAll rules d ((r.name, n) :: entries) a
      = (r.read d n a).toOption.bind (takeAll rules d entries) := by
  induction rules generalizing a with
  | nil => cases hr
  | cons t rules ih =>
    rw [List.map_cons, List.nodup_cons] at hnames
    rw [List.pairwise_cons] at hcommutes
    rcases List.mem_cons.mp hr with rfl | hmem
    · have hunknown : ∀ t ∈ rules, t.name ≠ r.name :=
        fun t ht heq => hnames.1 (List.mem_map.mpr ⟨t, ht, heq⟩)
      rw [takeAll_cons, take_cons_self]
      congr 1
      funext b
      rw [takeAll_cons_of_unknown hunknown, takeAll_cons, take_of_not_mem hother]
      rfl
    · have hne : t.name ≠ r.name :=
        fun heq => hnames.1 (List.mem_map.mpr ⟨r, hmem, heq.symm⟩)
      have hrest : takeAll rules d ((r.name, n) :: entries)
          = fun b => (r.read d n b).toOption.bind (takeAll rules d entries) := by
        funext b
        exact ih hnames.2 hcommutes.2 hmem b
      rw [takeAll_cons, take_cons_of_ne hne, hrest, ← Option.bind_assoc,
        (hcommutes.1 r hmem).take n a, Option.bind_assoc]
      congr 1

end FieldRule

/-! ## Tables -/

namespace Shape

/-- A shape whose rules have names of their own and set fields of their own. -/
structure Separate (s : Shape α) : Prop where
  names : (s.rules.map (·.name)).Nodup
  commutes : s.rules.Pairwise FieldRule.Commutes

/-- Whether a rule reads the entries of a name. -/
def knows (s : Shape α) (name : String) : Bool := (s.rule? name).isSome

/-- What it takes for a table to be read as a record. -/
structure Reads (s : Shape α) (d : Dialect) (entries : List (String × Node)) (v : α) : Prop where
  /-- No known entry is given twice. -/
  once : ((entries.map (·.1)).filter s.knows).Nodup
  skipped : ∀ e ∈ entries, s.knows e.1 = false → e.2.skipFault? = none
  required : ∀ r ∈ s.rules, r.presence = .required → r.name ∈ entries.map (·.1)
  value : FieldRule.takeAll s.rules d entries s.initial = some v

variable {s : Shape α} {d : Dialect}

theorem rule?_eq_some {name : String} {r : FieldRule α} (h : s.rule? name = some r) :
    r ∈ s.rules ∧ r.name = name := by
  have hname := List.find?_some h
  exact ⟨List.mem_of_find?_eq_some h, by simpa using hname⟩

theorem rule?_eq_none {name : String} (h : s.rule? name = none) :
    ∀ r ∈ s.rules, r.name ≠ name := by
  intro r hr heq
  have hfind := List.find?_eq_none.mp h r hr
  simp [heq] at hfind

theorem knows_of_mem {r : FieldRule α} (h : r ∈ s.rules) : s.knows r.name = true := by
  cases hr : s.rule? r.name with
  | none => exact absurd rfl (rule?_eq_none hr r h)
  | some t => simp [knows, hr]

/-- The steps of reading a table that succeed. -/
theorem readEntry_eq_ok {key : String} {n : Node} {seen seen' : List String} {a b : α} :
    s.readEntry d (seen, a) (.name key, n) = .ok (seen', b)
      ↔ (s.rule? key = none ∧ n.skipFault? = none ∧ seen' = seen ∧ b = a)
        ∨ ∃ r, s.rule? key = some r ∧ key ∉ seen ∧ seen' = key :: seen
            ∧ (r.read d n a).toOption = some b := by
  cases hrule : s.rule? key with
  | none =>
    cases hskip : n.skipFault? with
    | some fault => simp [readEntry, hrule, hskip]
    | none =>
      simp [readEntry, hrule, hskip, eq_comm]
  | some r =>
    by_cases hseen : key ∈ seen
    · simp [readEntry, hrule, hseen]
    · cases hread : r.read d n a with
      | error fault => simp [readEntry, hrule, hseen, hread, Except.map, Except.toOption]
      | ok c =>
        simp [readEntry, hrule, hseen, hread, Except.map, Except.toOption, eq_comm]

theorem foldlM_cons_eq_ok {key : String} {n : Node} {entries : List (String × Node)}
    {seen seen' : List String} {a b : α} :
    (Json.namedEntries ((key, n) :: entries)).foldlM (s.readEntry d) (seen, a) = .ok (seen', b)
      ↔ ∃ seen₁ a₁, s.readEntry d (seen, a) (.name key, n) = .ok (seen₁, a₁)
          ∧ (Json.namedEntries entries).foldlM (s.readEntry d) (seen₁, a₁) = .ok (seen', b) := by
  rw [Json.namedEntries, List.map_cons, List.foldlM_cons]
  cases s.readEntry d (seen, a) (.name key, n) with
  | error fault => simp [bind, Except.bind]
  | ok first =>
    constructor
    · intro h
      exact ⟨first.1, first.2, rfl, h⟩
    · rintro ⟨seen₁, a₁, hfirst, h⟩
      cases hfirst
      exact h

/-- What has been seen behind a table is what was seen in front of it and its known entries. -/
theorem mem_seen {entries : List (String × Node)} {seen seen' : List String} {a b : α}
    (h : (Json.namedEntries entries).foldlM (s.readEntry d) (seen, a) = .ok (seen', b))
    (name : String) :
    name ∈ seen' ↔ name ∈ seen ∨ (s.knows name = true ∧ name ∈ entries.map (·.1)) := by
  induction entries generalizing seen a with
  | nil =>
    cases h
    simp
  | cons e entries ih =>
    obtain ⟨key, n⟩ := e
    obtain ⟨seen₁, a₁, hstep, hrest⟩ := foldlM_cons_eq_ok.mp h
    rw [ih hrest, List.map_cons, List.mem_cons]
    rcases readEntry_eq_ok.mp hstep with ⟨hrule, -, rfl, -⟩ | ⟨r, hrule, -, rfl, -⟩
    · have hkey : s.knows key = false := by simp [knows, hrule]
      constructor
      · rintro (hseen | ⟨hknown, hmem⟩)
        · exact .inl hseen
        · exact .inr ⟨hknown, .inr hmem⟩
      · rintro (hseen | ⟨hknown, rfl | hmem⟩)
        · exact .inl hseen
        · rw [hkey] at hknown
          cases hknown
        · exact .inr ⟨hknown, hmem⟩
    · have hkey : s.knows key = true := by simp [knows, hrule]
      rw [List.mem_cons]
      constructor
      · rintro ((rfl | hseen) | ⟨hknown, hmem⟩)
        · exact .inr ⟨hkey, .inl rfl⟩
        · exact .inl hseen
        · exact .inr ⟨hknown, .inr hmem⟩
      · rintro (hseen | ⟨hknown, rfl | hmem⟩)
        · exact .inl (.inr hseen)
        · exact .inl (.inl rfl)
        · exact .inr ⟨hknown, hmem⟩

/-- What it takes for entries to be read behind others, of which the known names have been seen. -/
structure ReadsBehind (s : Shape α) (d : Dialect) (seen : List String)
    (entries : List (String × Node)) (a b : α) : Prop where
  once : ((entries.map (·.1)).filter s.knows).Nodup
  fresh : ∀ e ∈ entries, s.knows e.1 = true → e.1 ∉ seen
  skipped : ∀ e ∈ entries, s.knows e.1 = false → e.2.skipFault? = none
  value : FieldRule.takeAll s.rules d entries a = some b

section
variable {entries : List (String × Node)} {key : String} {n : Node} {seen : List String} {a b : α}

theorem readsBehind_nil : s.ReadsBehind d seen [] a b ↔ a = b := by
  constructor
  · intro h
    have hvalue := h.value
    rw [FieldRule.takeAll_nil] at hvalue
    exact Option.some.inj hvalue
  · rintro rfl
    exact ⟨List.nodup_nil, nofun, nofun, FieldRule.takeAll_nil s.rules a⟩

theorem readsBehind_cons_of_unknown (hrule : s.rule? key = none) :
    s.ReadsBehind d seen ((key, n) :: entries) a b ↔
      n.skipFault? = none ∧ s.ReadsBehind d seen entries a b := by
  have hkey : s.knows key = false := by simp [knows, hrule]
  have htake : FieldRule.takeAll s.rules d ((key, n) :: entries) a
      = FieldRule.takeAll s.rules d entries a :=
    FieldRule.takeAll_cons_of_unknown (rule?_eq_none hrule) n a
  have hfilter : (((key, n) :: entries).map (·.1)).filter s.knows
      = (entries.map (·.1)).filter s.knows :=
    List.filter_cons_of_neg (by simp [hkey])
  constructor
  · rintro ⟨honce, hfresh, hskipped, hvalue⟩
    rw [List.forall_mem_cons] at hfresh hskipped
    exact ⟨hskipped.1 hkey, hfilter ▸ honce, hfresh.2, hskipped.2, htake ▸ hvalue⟩
  · rintro ⟨hn, honce, hfresh, hskipped, hvalue⟩
    refine ⟨hfilter ▸ honce, ?_, ?_, htake ▸ hvalue⟩
    · rw [List.forall_mem_cons]
      refine ⟨fun hknown => ?_, hfresh⟩
      rw [hkey] at hknown
      cases hknown
    · rw [List.forall_mem_cons]
      exact ⟨fun _ => hn, hskipped⟩

/-- A known entry is read into the record before the others, and its name must not come again. -/
theorem readsBehind_cons_of_known (hs : s.Separate) {r : FieldRule α}
    (hrule : s.rule? key = some r) :
    s.ReadsBehind d seen ((key, n) :: entries) a b ↔
      key ∉ seen ∧ ∃ a₁, (r.read d n a).toOption = some a₁ ∧
        s.ReadsBehind d (key :: seen) entries a₁ b := by
  have hkey : s.knows key = true := by simp [knows, hrule]
  obtain ⟨hmem, rfl⟩ := rule?_eq_some hrule
  have hfirst (hother : r.name ∉ entries.map (·.1)) :
      FieldRule.takeAll s.rules d ((r.name, n) :: entries) a
        = (r.read d n a).toOption.bind (FieldRule.takeAll s.rules d entries) :=
    FieldRule.takeAll_cons_of_mem hs.names hs.commutes hmem hother n a
  constructor
  · rintro ⟨honce, hfresh, hskipped, hvalue⟩
    rw [List.forall_mem_cons] at hfresh hskipped
    rw [List.map_cons, List.filter_cons_of_pos hkey, List.nodup_cons] at honce
    have hother : r.name ∉ entries.map (·.1) :=
      fun hin => honce.1 (List.mem_filter.mpr ⟨hin, hkey⟩)
    rw [hfirst hother] at hvalue
    obtain ⟨a₁, hread, hrest⟩ := Option.bind_eq_some_iff.mp hvalue
    refine ⟨hfresh.1 hkey, a₁, hread, honce.2, ?_, hskipped.2, hrest⟩
    intro e he hknown hin
    obtain heq | hin := List.mem_cons.mp hin
    · exact hother (List.mem_map.mpr ⟨e, he, heq⟩)
    · exact hfresh.2 e he hknown hin
  · rintro ⟨hseen, a₁, hread, honce, hfresh, hskipped, hrest⟩
    have hother : r.name ∉ entries.map (·.1) := by
      intro hin
      obtain ⟨e, he, heq⟩ := List.mem_map.mp hin
      exact hfresh e he (heq ▸ hkey) (heq ▸ List.mem_cons_self)
    refine ⟨?_, ?_, ?_, ?_⟩
    · rw [List.map_cons, List.filter_cons_of_pos hkey, List.nodup_cons]
      exact ⟨fun hin => hother (List.mem_filter.mp hin).1, honce⟩
    · rw [List.forall_mem_cons]
      exact ⟨fun _ => hseen, fun e he hknown hin => hfresh e he hknown (.tail _ hin)⟩
    · rw [List.forall_mem_cons]
      exact ⟨fun hunknown => absurd hkey (by simp [hunknown]), hskipped⟩
    · rw [hfirst hother, hread]
      exact hrest

end

/-- Reading the entries of a table succeeds when no known entry is given twice, the unknown ones can
be passed over, and the rules read theirs. -/
theorem foldlM_readEntry_iff (hs : s.Separate) (entries : List (String × Node))
    (seen : List String) (a b : α) :
    (∃ seen', (Json.namedEntries entries).foldlM (s.readEntry d) (seen, a) = .ok (seen', b))
      ↔ s.ReadsBehind d seen entries a b := by
  induction entries generalizing seen a with
  | nil =>
    rw [readsBehind_nil]
    simp [Json.namedEntries, pure, Except.pure]
  | cons e entries ih =>
    obtain ⟨key, n⟩ := e
    simp only [foldlM_cons_eq_ok, readEntry_eq_ok]
    cases hrule : s.rule? key with
    | none =>
      rw [readsBehind_cons_of_unknown hrule, ← ih]
      constructor
      · rintro ⟨seen', _, _, ⟨-, hn, rfl, rfl⟩ | ⟨r, hr, -⟩, hrest⟩
        · exact ⟨hn, seen', hrest⟩
        · cases hr
      · rintro ⟨hn, seen', hrest⟩
        exact ⟨seen', seen, a, .inl ⟨rfl, hn, rfl, rfl⟩, hrest⟩
    | some r =>
      rw [readsBehind_cons_of_known hs hrule]
      simp only [← ih]
      constructor
      · rintro ⟨seen', _, a₁, ⟨hr, -⟩ | ⟨t, ht, hseen, rfl, hread⟩, hrest⟩
        · cases hr
        · cases ht
          exact ⟨hseen, a₁, hread, seen', hrest⟩
      · rintro ⟨hseen, a₁, hread, seen', hrest⟩
        exact ⟨seen', key :: seen, a₁, .inr ⟨r, rfl, hseen, rfl, hread⟩, hrest⟩

theorem missing?_eq_none {seen : List String} :
    s.missing? seen = none ↔ ∀ r ∈ s.rules, r.presence = .required → r.name ∈ seen := by
  simp [missing?]

/-- What a table is read as does not depend on the order of its entries. -/
theorem readTable_eq_ok_iff (hs : s.Separate) (entries : List (String × Node)) (v : α) :
    s.readTable d (Json.namedEntries entries) none = .ok v ↔ s.Reads d entries v := by
  have hfold := foldlM_readEntry_iff (d := d) hs entries [] s.initial v
  constructor
  · intro h
    unfold readTable at h
    cases hread : (Json.namedEntries entries).foldlM (s.readEntry d) ([], s.initial) with
    | error fault => simp [hread] at h
    | ok last =>
      obtain ⟨seen, w⟩ := last
      simp only [hread] at h
      cases hmissing : s.missing? seen with
      | some name => simp [hmissing] at h
      | none =>
        simp only [hmissing] at h
        cases h
        have hbehind := hfold.mp ⟨seen, hread⟩
        refine ⟨hbehind.once, hbehind.skipped, ?_, hbehind.value⟩
        intro r hr hpresence
        have hseen := missing?_eq_none.mp hmissing r hr hpresence
        rcases (mem_seen hread r.name).mp hseen with hnil | ⟨-, hin⟩
        · cases hnil
        · exact hin
  · intro h
    obtain ⟨seen, hread⟩ := hfold.mpr ⟨h.once, fun _ _ _ => List.not_mem_nil, h.skipped, h.value⟩
    have hmissing : s.missing? seen = none := by
      rw [missing?_eq_none]
      intro r hr hpresence
      exact (mem_seen hread r.name).mpr (.inr ⟨knows_of_mem hr, h.required r hr hpresence⟩)
    simp only [readTable, hread, hmissing]

/-- A table that holds every field once, in any order, is read rule by rule. -/
theorem readTable_of_perm (hs : s.Separate) {entries : List (String × Node)}
    (hall : (entries.map (·.1)).Perm (s.rules.map (·.name))) {v : α}
    (h : FieldRule.takeAll s.rules d entries s.initial = some v) :
    s.readTable d (Json.namedEntries entries) none = .ok v := by
  rw [readTable_eq_ok_iff hs]
  refine ⟨(hall.nodup_iff.mpr hs.names).filter _, ?_, ?_, h⟩
  · intro e he hunknown
    obtain ⟨r, hr, heq⟩ := List.mem_map.mp (hall.mem_iff.mp (List.mem_map_of_mem he))
    rw [← heq, knows_of_mem hr] at hunknown
    cases hunknown
  · intro r hr _
    exact hall.mem_iff.mpr (List.mem_map_of_mem hr)

end Shape

end RecordBean.Document

/-! ## The records of catalogs and settings

Every rule of theirs sets a field of its own. -/

namespace RecordBean
open RecordBean.Document

theorem Marker.shape_separate : Marker.shape.Separate where
  names := by decide
  commutes := List.pairwise_pair.mpr (FieldRule.of_commutes fun _ _ _ => rfl)

theorem Component.shape_separate : Component.shape.Separate where
  names := by decide
  commutes := List.pairwise_pair.mpr (FieldRule.of_commutes fun _ _ _ => rfl)

theorem HostType.shape_separate : HostType.shape.Separate where
  names := by decide
  commutes := by
    unfold HostType.shape
    simp only [List.pairwise_cons, List.forall_mem_cons, List.not_mem_nil, false_implies,
      implies_true, List.Pairwise.nil, and_true]
    and_intros <;> exact FieldRule.of_commutes fun _ _ _ => rfl

theorem Catalog.shape_separate : Catalog.shape.Separate where
  names := by decide
  commutes := List.pairwise_singleton _ _

theorem Field.shape_separate : Field.shape.Separate where
  names := by decide
  commutes := by
    unfold Field.shape
    simp only [List.pairwise_cons, List.forall_mem_cons, List.not_mem_nil, false_implies,
      implies_true, List.Pairwise.nil, and_true]
    and_intros <;> exact FieldRule.of_commutes fun _ _ _ => rfl

theorem Schema.shape_separate : Schema.shape.Separate where
  names := by decide
  commutes := by
    unfold Schema.shape
    simp only [List.pairwise_cons, List.forall_mem_cons, List.not_mem_nil, false_implies,
      implies_true, List.Pairwise.nil, and_true]
    and_intros <;> exact FieldRule.of_commutes fun _ _ _ => rfl

theorem Settings.shape_separate : Settings.shape.Separate where
  names := by decide
  commutes := by
    unfold Settings.shape
    simp only [List.pairwise_cons, List.forall_mem_cons, List.not_mem_nil, false_implies,
      implies_true, List.Pairwise.nil, and_true]
    and_intros <;> exact FieldRule.of_commutes fun _ _ _ => rfl

end RecordBean
