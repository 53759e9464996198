import Mathlib.Data.List.Basic

/-! # The first fault of a list

A check goes through a list and stops at the first item with a fault; whether an item has one can
depend on the items in front of it. A list has no fault at all or exactly one first fault, and a
check that takes the items in order and remembers what it has passed reports exactly that one
(`Scans.eq_error_iff`). -/

namespace RecordBean.FirstFault

variable {α ε : Type}

/-- Whether no item has a fault behind the items in front of it. -/
def IsFaultless (faulty : List α → α → Prop) (items : List α) : Prop :=
  ∀ front x behind, items = front ++ x :: behind → ¬ faulty front x

/-- Whether an item is the first one with a fault; `front` holds the items in front of it. -/
structure IsFirst (faulty : List α → α → Prop) (items front : List α) (x : α) : Prop where
  place : ∃ behind, items = front ++ x :: behind
  fault : faulty front x
  sound : IsFaultless faulty front

section
variable {faulty : List α → α → Prop} {items front other : List α} {x y : α}

theorem isFaultless_nil : IsFaultless faulty [] := by
  intro front x behind h
  exact absurd h.symm (List.append_ne_nil_of_right_ne_nil front (List.cons_ne_nil x behind))

theorem IsFaultless.concat (h : IsFaultless faulty items) (hx : ¬ faulty items x) :
    IsFaultless faulty (items ++ [x]) := by
  intro front y behind hitems
  rcases List.eq_nil_or_concat behind with rfl | ⟨init, last, rfl⟩
  · obtain ⟨hfront, hy⟩ := List.append_inj' hitems rfl
    rw [← hfront, ← List.singleton_injective hy]
    exact hx
  · rw [List.concat_eq_append, ← List.cons_append, ← List.append_assoc] at hitems
    exact h front y init (List.append_inj' hitems rfl).1

theorem IsFirst.not_isFaultless (h : IsFirst faulty items front x) :
    ¬ IsFaultless faulty items := by
  obtain ⟨behind, hitems⟩ := h.place
  intro hnone
  exact hnone front x behind hitems h.fault

/-- Nothing in front of a first fault is one. -/
theorem IsFirst.length_le (h : IsFirst faulty items front x) (h' : IsFirst faulty items other y) :
    front.length ≤ other.length := by
  obtain ⟨behind, hitems⟩ := h.place
  obtain ⟨behind', hitems'⟩ := h'.place
  by_contra hlt
  have hshort : (other ++ [y]).length ≤ front.length := by
    rw [List.length_append, List.length_singleton]
    omega
  have hother : other ++ [y] <+: items := ⟨behind', by rw [hitems', List.append_assoc]; rfl⟩
  have hfront : front <+: items := ⟨x :: behind, hitems.symm⟩
  obtain ⟨rest, hrest⟩ := List.prefix_of_prefix_length_le hother hfront hshort
  rw [← List.append_cons] at hrest
  exact h.sound other y rest hrest.symm h'.fault

theorem IsFirst.unique (h : IsFirst faulty items front x) (h' : IsFirst faulty items other y) :
    front = other ∧ x = y := by
  obtain ⟨behind, hitems⟩ := h.place
  obtain ⟨behind', hitems'⟩ := h'.place
  have hlength := Nat.le_antisymm (h.length_le h') (h'.length_le h)
  obtain ⟨hfront, htail⟩ := List.append_inj (hitems.symm.trans hitems') hlength
  exact ⟨hfront, (List.cons_eq_cons.mp htail).1⟩

end

/-- Whether a check takes the items in order, behind those it has passed, and stops at the first one
that `fault?` has something to say about. -/
structure Scans (faulty : List α → α → Prop) (fault? : List α → α → Option ε)
    (check : List α → List α → Except ε Unit) : Prop where
  faulty_iff : ∀ front x, faulty front x ↔ fault? front x ≠ none
  done : ∀ front, check front [] = .ok ()
  next : ∀ front x rest, check front (x :: rest) =
    match fault? front x with
    | some e => .error e
    | none => check (front ++ [x]) rest

namespace Scans
variable {faulty : List α → α → Prop} {fault? : List α → α → Option ε}
  {check : List α → List α → Except ε Unit}

/-- Behind items that have passed, a check accepts what has no fault and reports the first one. -/
theorem cases_of_isFaultless (h : Scans faulty fault? check) (items : List α) {front : List α}
    (hfront : IsFaultless faulty front) :
    (check front items = .ok () ∧ IsFaultless faulty (front ++ items)) ∨
    (∃ passed x e, IsFirst faulty (front ++ items) passed x ∧ fault? passed x = some e ∧
      check front items = .error e) := by
  induction items generalizing front with
  | nil =>
    rw [List.append_nil]
    exact Or.inl ⟨h.done front, hfront⟩
  | cons x rest ih =>
    rw [h.next front x rest]
    cases hx : fault? front x with
    | some e =>
      have hfaulty : faulty front x := (h.faulty_iff front x).mpr (by simp [hx])
      exact Or.inr ⟨front, x, e, ⟨⟨rest, rfl⟩, hfaulty, hfront⟩, hx, rfl⟩
    | none =>
      have hsound : ¬ faulty front x := (h.faulty_iff front x).not.mpr (by simp [hx])
      rw [List.append_cons front x rest]
      exact ih (hfront.concat hsound)

theorem eq_ok_iff (h : Scans faulty fault? check) {items : List α} :
    check [] items = .ok () ↔ IsFaultless faulty items := by
  rcases h.cases_of_isFaultless items isFaultless_nil with
    ⟨hok, hnone⟩ | ⟨passed, x, e, hfirst, -, he⟩
  · exact iff_of_true hok hnone
  · rw [he]
    exact iff_of_false (by simp) hfirst.not_isFaultless

theorem eq_error_iff (h : Scans faulty fault? check) {items : List α} {e : ε} :
    check [] items = .error e ↔
      ∃ front x, IsFirst faulty items front x ∧ fault? front x = some e := by
  rcases h.cases_of_isFaultless items isFaultless_nil with
    ⟨hok, hnone⟩ | ⟨passed, x, e', hfirst, hx, he⟩
  · rw [hok]
    refine iff_of_false (by simp) ?_
    rintro ⟨front, x, hfirst, -⟩
    exact hfirst.not_isFaultless hnone
  · rw [he, Except.error.injEq]
    constructor
    · rintro rfl
      exact ⟨passed, x, hfirst, hx⟩
    · rintro ⟨front, y, hother, hy⟩
      obtain ⟨rfl, rfl⟩ := hfirst.unique hother
      exact Option.some.inj (hx.symm.trans hy)

end Scans

end RecordBean.FirstFault
