import Mathlib.Data.List.Nodup
import RecordBean.Proofs.Decoding
import RecordBean.Proofs.Tree

/-! # Entries of a table

What may happen to the entries of a table that is read as a record without any change of that record:
they can be given in another order, an entry that no rule knows can come in, an entry can go if its
rule can do without it and reads nothing new from it, and an entry can be exchanged for one that is
read as the same. -/

namespace RecordBean.Document
variable {α : Type} {d : Dialect} {entries entries' : List (String × Node)}

theorem lookup_filter {γ : Type} {p : String → Bool} {name : String} (h : p name = true)
    (l : List (String × γ)) : (l.filter fun e => p e.1).lookup name = l.lookup name := by
  induction l with
  | nil => rfl
  | cons e l ih =>
    rw [List.filter_cons]
    split
    · rw [List.lookup_cons, List.lookup_cons, ih]
    · rename_i hp
      have hne : (name == e.1) = false := by
        apply beq_false_of_ne
        intro he
        exact hp (he ▸ h)
      rw [List.lookup_cons, hne, ih]

theorem FieldRule.takeAll_congr {rules : List (FieldRule α)}
    (h : ∀ r ∈ rules, entries.lookup r.name = entries'.lookup r.name) (a : α) :
    takeAll rules d entries a = takeAll rules d entries' a := by
  induction rules generalizing a with
  | nil => rfl
  | cons r rules ih =>
    rw [List.forall_mem_cons] at h
    have htake : r.take d entries = r.take d entries' := by
      funext b
      rw [take, take, h.1]
    rw [takeAll_cons, takeAll_cons, htake]
    congr 1
    funext b
    exact ih h.2 b

namespace Shape
variable {s : Shape α} {v : α} {r : FieldRule α} {n n' : Node}

theorem knows_iff {name : String} : s.knows name = true ↔ name ∈ s.rules.map (·.name) := by
  constructor
  · intro h
    obtain ⟨r, hr⟩ := Option.isSome_iff_exists.mp h
    obtain ⟨hmem, hname⟩ := rule?_eq_some hr
    exact List.mem_map.mpr ⟨r, hmem, hname⟩
  · intro h
    obtain ⟨r, hr, hname⟩ := List.mem_map.mp h
    rw [← hname]
    exact knows_of_mem hr

namespace Reads

/-- Known members stand once in a table, so their places do not matter. -/
theorem perm (h : s.Reads d entries v) (hperm : entries.Perm entries') : s.Reads d entries' v := by
  have hnames : (entries.map (·.1)).Perm (entries'.map (·.1)) := hperm.map _
  refine ⟨(hnames.filter _).nodup_iff.mp h.once, ?_, ?_, ?_⟩
  · intro e he hunknown
    exact h.skipped e (hperm.mem_iff.mpr he) hunknown
  · intro r hr hpresence
    exact hnames.mem_iff.mp (h.required r hr hpresence)
  · have hknown := hperm.filter fun e => s.knows e.1
    have honce : ((entries.filter fun e => s.knows e.1).map (·.1)).Nodup := by
      have := h.once
      rw [List.filter_map] at this
      exact this
    have honce' := (hknown.map (·.1)).nodup_iff.mp honce
    rw [← h.value]
    apply FieldRule.takeAll_congr
    intro r hr
    have hr := knows_of_mem hr
    rw [← lookup_filter hr entries, ← lookup_filter hr entries']
    ext n
    rw [Tree.lookup_eq_some_iff_mem honce, Tree.lookup_eq_some_iff_mem honce', hknown.mem_iff]

theorem cons_unknown (h : s.Reads d entries v) {name : String} (hname : s.knows name = false)
    (hn : n.skipFault? = none) : s.Reads d ((name, n) :: entries) v := by
  have hrules : ∀ r ∈ s.rules, r.name ≠ name := by
    intro r hr heq
    rw [← heq, knows_of_mem hr] at hname
    cases hname
  refine ⟨?_, ?_, ?_, ?_⟩
  · rw [List.map_cons, List.filter_cons_of_neg (by simp [hname])]
    exact h.once
  · rw [List.forall_mem_cons]
    exact ⟨fun _ => hn, h.skipped⟩
  · intro r hr hpresence
    exact List.mem_cons_of_mem _ (h.required r hr hpresence)
  · rw [FieldRule.takeAll_cons_of_unknown hrules]
    exact h.value

theorem notMem_of_cons (h : s.Reads d ((r.name, n) :: entries) v) (hr : r ∈ s.rules) :
    r.name ∉ entries.map (·.1) := by
  have honce := h.once
  rw [List.map_cons, List.filter_cons_of_pos (knows_of_mem hr), List.nodup_cons] at honce
  intro hmem
  exact honce.1 (List.mem_filter.mpr ⟨hmem, knows_of_mem hr⟩)

/-- The first member of a table is read into the record before all others. -/
theorem value_cons (hs : s.Separate) (h : s.Reads d ((r.name, n) :: entries) v)
    (hr : r ∈ s.rules) :
    (r.read d n s.initial).toOption.bind (FieldRule.takeAll s.rules d entries) = some v := by
  have hvalue := h.value
  rw [FieldRule.takeAll_cons_of_mem hs.names hs.commutes hr (h.notMem_of_cons hr)] at hvalue
  exact hvalue

/-- A member that can be left out, and that changes nothing in the record before reading, is not
missed. -/
theorem of_cons (hs : s.Separate) (h : s.Reads d ((r.name, n) :: entries) v) (hr : r ∈ s.rules)
    (hpresence : r.presence ≠ .required) (hn : r.read d n s.initial = .ok s.initial) :
    s.Reads d entries v := by
  refine ⟨?_, ?_, ?_, ?_⟩
  · have honce := h.once
    rw [List.map_cons, List.filter_cons_of_pos (knows_of_mem hr)] at honce
    exact honce.of_cons
  · intro e he
    exact h.skipped e (List.mem_cons_of_mem _ he)
  · intro t ht hrequired
    have hmem := h.required t ht hrequired
    rw [List.map_cons, List.mem_cons] at hmem
    obtain heq | hmem := hmem
    · rw [List.inj_on_of_nodup_map hs.names ht hr heq] at hrequired
      exact absurd hrequired hpresence
    · exact hmem
  · have hvalue := h.value_cons hs hr
    rw [hn] at hvalue
    exact hvalue

/-- A member can be exchanged for another one that is read as the same. -/
theorem cons_congr (hs : s.Separate) (h : s.Reads d ((r.name, n) :: entries) v)
    (hr : r ∈ s.rules) (hn : ∀ a b, r.read d n a = .ok b → r.read d n' a = .ok b) :
    s.Reads d ((r.name, n') :: entries) v := by
  refine ⟨h.once, ?_, h.required, ?_⟩
  · have hskipped := h.skipped
    rw [List.forall_mem_cons] at hskipped ⊢
    refine ⟨fun hunknown => ?_, hskipped.2⟩
    rw [knows_of_mem hr] at hunknown
    cases hunknown
  · have hvalue := h.value_cons hs hr
    obtain ⟨a, ha, hrest⟩ := Option.bind_eq_some_iff.mp hvalue
    have ha' := hn _ _ (toOption_eq_some.mp ha)
    rw [FieldRule.takeAll_cons_of_mem hs.names hs.commutes hr (h.notMem_of_cons hr), ha']
    exact hrest

end Reads

end Shape

end RecordBean.Document
