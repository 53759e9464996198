import Mathlib.Data.List.Dedup
import Mathlib.Data.String.Basic
import RecordBean.Proofs.Interleaving
import RecordBean.Proofs.Mirroring

/-! # The store as a map

An empty store takes deliveries one after another and refuses none. What it holds afterwards is read
off the deliveries alone: under every key the source of the last delivery with this key. One
delivery keeps this relation (`Remembers.add`), so a whole sequence does, and the keys, their order
and their number follow. The key of a delivery is made from its package and its class; classes
without a dot leave it to be taken apart again. -/

namespace RecordBean.Storage
open RecordBean.Name RecordBean.Mirroring

/-! ## The last delivery of a key -/

/-- Whether a delivery has a key and none behind it has. -/
def IsLast (done : List Delivery) (key : String) (d : Delivery) : Prop :=
  d.qualifiedName = key ∧
    ∃ front behind, done = front ++ d :: behind ∧ ∀ e ∈ behind, e.qualifiedName ≠ key

theorem not_isLast_nil (key : String) (d : Delivery) : ¬ IsLast [] key d := by
  rintro ⟨-, front, behind, hnil, -⟩
  exact List.append_ne_nil_of_right_ne_nil front (List.cons_ne_nil d behind) hnil.symm

/-- A further delivery becomes the last one of its own key and of no other. -/
theorem isLast_concat {done : List Delivery} {key : String} {d e : Delivery} :
    IsLast (done ++ [d]) key e ↔
      if d.qualifiedName = key then e = d else IsLast done key e := by
  constructor
  · rintro ⟨hkey, front, behind, hdone, hbehind⟩
    rcases List.eq_nil_or_concat behind with rfl | ⟨init, last, rfl⟩
    · obtain ⟨-, hd⟩ := List.append_inj' hdone rfl
      obtain rfl := List.singleton_injective hd
      rw [if_pos hkey]
    · rw [List.concat_eq_append] at hdone hbehind
      rw [← List.cons_append, ← List.append_assoc] at hdone
      obtain ⟨hinit, hd⟩ := List.append_inj' hdone rfl
      obtain rfl := List.singleton_injective hd
      rw [if_neg (hbehind d (by simp))]
      exact ⟨hkey, front, init, hinit, fun e he => hbehind e (List.mem_append_left _ he)⟩
  · split
    · rename_i hkey
      rintro rfl
      exact ⟨hkey, done, [], rfl, by simp⟩
    · rename_i hkey
      rintro ⟨he, front, behind, rfl, hbehind⟩
      refine ⟨he, front, behind ++ [d], by simp, ?_⟩
      simpa [or_imp, forall_and, hkey] using hbehind

/-! ## One delivery after another -/

/-- Whether a store answers by some deliveries: under every key with the last of them that has it,
and with nothing where none has. -/
structure Remembers (done : List Delivery) (s : Store) : Prop where
  get?_eq_some_iff : ∀ key source,
    s.get? key = some source ↔ ∃ d, IsLast done key d ∧ d.source = source
  get?_eq_none_iff : ∀ key, s.get? key = none ↔ ∀ d ∈ done, d.qualifiedName ≠ key

theorem Remembers.empty : Remembers [] .empty where
  get?_eq_some_iff key source := by simp [Store.get?, Store.empty, not_isLast_nil]
  get?_eq_none_iff key := by simp [Store.get?, Store.empty]

theorem Remembers.add {done : List Delivery} {s : Store} (h : Remembers done s) (d : Delivery) :
    Remembers (done ++ [d]) (s.add d) where
  get?_eq_some_iff key source := by
    simp only [get?_add, isLast_concat]
    by_cases hkey : d.qualifiedName = key
    · simp [hkey]
    · simpa [hkey] using h.get?_eq_some_iff key source
  get?_eq_none_iff key := by
    rw [get?_add]
    by_cases hkey : d.qualifiedName = key
    · simp [hkey]
    · simpa [hkey, or_imp, forall_and] using h.get?_eq_none_iff key

theorem Remembers.deliverAll {done : List Delivery} {s : Store} (h : Remembers done s)
    (ds : List Delivery) :
    ∃ s', deliverAll (Store.sink []) ds s = .ok s' ∧ Remembers (done ++ ds) s' := by
  induction ds generalizing done s with
  | nil =>
    rw [List.append_nil]
    exact ⟨s, rfl, h⟩
  | cons d rest ih =>
    obtain ⟨s', hs, h'⟩ := ih (h.add d)
    rw [List.append_assoc, List.singleton_append] at h'
    have hd : (Store.sink []).deliver d s = (.ok [], s.add d) := by simp [Store.sink]
    refine ⟨s', ?_, h'⟩
    simp only [Mirroring.deliverAll, hd]
    exact hs

/-! ## The keys -/

/-- The numbers of the characters of a name, by which names are ordered. -/
def codePoints (name : String) : List Nat := name.toList.map Char.toNat

theorem codePoints_lt {a b : String} (h : a < b) : codePoints a < codePoints b :=
  List.map_lt (fun _ _ hc => hc) (String.lt_iff_toList_lt.mp h)

theorem keys_increasing (s : Store) :
    s.keys.Pairwise fun a b => codePoints a < codePoints b := by
  have hordered : s.keys.Pairwise fun a b => compare a b = .lt := Std.TreeMap.ordered_keys
  exact hordered.imp fun hlt => codePoints_lt (compare_lt_iff_lt.mp hlt)

theorem nodup_keys (s : Store) : s.keys.Nodup := by
  refine (keys_increasing s).imp fun {a b} hlt he => ?_
  rw [he] at hlt
  exact List.lt_irrefl _ hlt

theorem size_eq_length_keys (s : Store) : s.size = s.keys.length := Std.TreeMap.length_keys.symm

theorem isEmpty_iff {s : Store} : s.isEmpty = true ↔ ∀ key, s.get? key = none := by
  unfold Store.isEmpty Store.get?
  simp [Std.TreeMap.isEmpty_iff_forall_not_mem]

section Remembers
variable {done : List Delivery} {s : Store} (h : Remembers done s)
include h

theorem Remembers.mem_keys_iff (key : String) :
    key ∈ s.keys ↔ ∃ d ∈ done, d.qualifiedName = key := by
  rw [Interleaving.mem_keys_iff, Ne, h.get?_eq_none_iff key]
  simp

theorem Remembers.size_eq : s.size = (done.map (·.qualifiedName)).dedup.length := by
  have hsame : s.keys.Perm (done.map (·.qualifiedName)).dedup := by
    refine (List.perm_ext_iff_of_nodup (nodup_keys s) (List.nodup_dedup _)).mpr fun key => ?_
    rw [h.mem_keys_iff, List.mem_dedup, List.mem_map]
  rw [size_eq_length_keys, hsame.length_eq]

theorem Remembers.isEmpty_iff : s.isEmpty = true ↔ done = [] := by
  rw [Storage.isEmpty_iff]
  constructor
  · intro hnone
    refine List.eq_nil_iff_forall_not_mem.mpr fun d hd => ?_
    exact (h.get?_eq_none_iff d.qualifiedName).mp (hnone _) d hd rfl
  · rintro rfl key
    exact (h.get?_eq_none_iff key).mpr (by simp)

end Remembers

/-- All that a store shows after some deliveries. -/
structure Shows (done : List Delivery) (s : Store) : Prop extends Remembers done s where
  increasing : s.keys.Pairwise fun a b => codePoints a < codePoints b
  mem_keys_iff : ∀ key, key ∈ s.keys ↔ ∃ d ∈ done, d.qualifiedName = key
  size_eq : s.size = (done.map (·.qualifiedName)).dedup.length
  isEmpty_iff : s.isEmpty = true ↔ done = []
  /-- Where no class has a dot, a key belongs to one package and one class. -/
  key_eq_iff : ∀ d ∈ done, ∀ e ∈ done, IsSimple d.className → IsSimple e.className →
    (d.qualifiedName = e.qualifiedName ↔ d.package = e.package ∧ d.className = e.className)
  /-- The key is the name under which a pass reports the bean of such a schema. -/
  key_eq : ∀ d ∈ done, ∀ t : Schema, t.packageName = d.package → t.beanName = d.className →
    d.qualifiedName = t.beanQualifiedName

/-- Every sequence of deliveries is taken by an empty store, which then shows the last source of
every key, the keys in order, and how many there are. -/
theorem deliveries_shown (deliveries : List Delivery) :
    ∃ s, deliverAll (Store.sink []) deliveries .empty = .ok s ∧ Shows deliveries s := by
  obtain ⟨s, hs, h⟩ := Remembers.empty.deliverAll deliveries
  rw [List.nil_append] at h
  refine ⟨s, hs, h, keys_increasing s, h.mem_keys_iff, h.size_eq, h.isEmpty_iff, ?_, ?_⟩
  · intro d _ e _ hd he
    exact qualify_eq_iff hd he
  · intro d _ t hpackage hclass
    unfold Delivery.qualifiedName Schema.beanQualifiedName
    rw [hpackage, hclass]

end RecordBean.Storage
