import Mathlib.Data.List.Induction
import Std.Data.HashMap.Lemmas
import RecordBean.Loading
import RecordBean.Proofs.FirstFault
import RecordBean.Proofs.Reference

/-! # Catalogs and their index

A list of types makes a catalog exactly if no name is given twice; else the first type that repeats
a name is reported. A catalog finds its types by going through the list. The same lookups can be
made through an index of positions, which a loop over the list fills while it looks for repeated
names: behind every part of the list the index holds the names of that part, each with its position
(`getElem?_positions`), so the loop stops where the list repeats a name, and at its end both ways of
looking a name up agree. -/

namespace RecordBean.Indexing
open RecordBean.FirstFault RecordBean.Generation RecordBean.Reference

/-! ## Repeated names -/

/-- Whether a type has the name of one in front of it. -/
def Repeats (front : List HostType) (h : HostType) : Prop := h.name ∈ front.map (·.name)

/-- What is said about a type behind others. -/
def repeated? (front : List HostType) (h : HostType) : Option String :=
  if h.name ∈ front.map (·.name) then some h.name else none

theorem repeats_iff {front : List HostType} {h : HostType} :
    Repeats front h ↔ repeated? front h ≠ none := by
  simp [Repeats, repeated?]

theorem isFaultless_repeats_iff {types : List HostType} :
    IsFaultless Repeats types ↔ (types.map (·.name)).Nodup := by
  induction types using List.reverseRecOn with
  | nil => exact iff_of_true isFaultless_nil List.nodup_nil
  | append_singleton front h ih =>
    rw [List.map_append, List.map_singleton, List.nodup_append_comm, List.singleton_append,
      List.nodup_cons, ← ih]
    constructor
    · intro hall
      refine ⟨hall front h [] rfl, fun first x behind hsplit => ?_⟩
      exact hall first x (behind ++ [h]) (by rw [hsplit, List.append_assoc]; rfl)
    · rintro ⟨hnew, hfront⟩
      exact hfront.concat hnew

/-! ## The index -/

/-- Positions by name. -/
abbrev Index := Std.HashMap String Nat

/-- Note the positions of types, the first of which stands at `start`. A name that has been noted
before ends it. -/
def note (start : Nat) (index : Index) : List HostType → Except String Index
  | [] => .ok index
  | h :: rest =>
    let (known, index) := index.containsThenInsert h.name start
    if known then .error h.name else note (start + 1) index rest

theorem note_cons (start : Nat) (index : Index) (h : HostType) (rest : List HostType) :
    note start index (h :: rest) =
      if index.contains h.name then .error h.name
      else note (start + 1) (index.insert h.name start) rest := by
  have hinsert := Std.HashMap.containsThenInsert_snd (m := index) (k := h.name) (v := start)
  have hcontains := Std.HashMap.containsThenInsert_fst (m := index) (k := h.name) (v := start)
  rw [← hinsert, ← hcontains]
  rfl

/-- The index of a whole list. -/
def positions (types : List HostType) : Index :=
  types.zipIdx.foldl (fun index (h, i) => index.insert h.name i) ∅

theorem positions_concat (front : List HostType) (h : HostType) :
    positions (front ++ [h]) = (positions front).insert h.name front.length := by
  unfold positions
  rw [List.zipIdx_append, List.foldl_append, Nat.zero_add]
  rfl

theorem mem_positions_iff {types : List HostType} {name : String} :
    name ∈ positions types ↔ name ∈ types.map (·.name) := by
  induction types using List.reverseRecOn with
  | nil => simp [positions]
  | append_singleton front h ih =>
    rw [positions_concat, Std.HashMap.mem_insert, ih, List.map_append, List.mem_append,
      List.map_singleton, List.mem_singleton, beq_iff_eq, or_comm, eq_comm]

theorem getElem?_concat_eq_some_iff {names : List String} {last name : String} {i : Nat} :
    (names ++ [last])[i]? = some name ↔
      names[i]? = some name ∨ i = names.length ∧ last = name := by
  rcases Nat.lt_trichotomy i names.length with hlt | rfl | hgt
  · rw [List.getElem?_append_left hlt]
    simp [Nat.ne_of_lt hlt]
  · simp
  · have hnone : names[i]? = none := List.getElem?_eq_none (Nat.le_of_lt hgt)
    have hbeyond : (names ++ [last])[i]? = none :=
      List.getElem?_eq_none (by rw [List.length_append]; exact hgt)
    rw [hnone, hbeyond]
    simp [Nat.ne_of_gt hgt]

/-- The index holds the names of the list, each with its position. -/
theorem getElem?_positions {types : List HostType} (hd : (types.map (·.name)).Nodup)
    (name : String) (i : Nat) :
    (positions types)[name]? = some i ↔ (types.map (·.name))[i]? = some name := by
  induction types using List.reverseRecOn with
  | nil => simp [positions]
  | append_singleton front h ih =>
    rw [List.map_append, List.map_singleton] at hd ⊢
    obtain ⟨hfront, -, hnew⟩ := List.nodup_append.mp hd
    rw [positions_concat, Std.HashMap.getElem?_insert, getElem?_concat_eq_some_iff,
      List.length_map]
    by_cases hn : h.name = name
    · -- in front of the new name there is no other one like it
      have hnone : (front.map (·.name))[i]? ≠ some name := fun hi =>
        hnew name (List.mem_of_getElem? hi) h.name (List.mem_singleton_self _) hn.symm
      simp only [hn, beq_self_eq_true, if_true, Option.some.injEq, hnone, false_or, and_true]
      exact eq_comm
    · simp [hn, ih hfront]

/-! ## Both scans -/

/-- Look for a repeated name behind some types, with their names remembered. -/
def checkNames (front types : List HostType) : Except String Unit :=
  match Catalog.firstRepeat? (front.map (·.name)).reverse (types.map (·.name)) with
  | some name => .error name
  | none => .ok ()

/-- Look for a repeated name behind some types, with their positions noted. -/
def checkPositions (front types : List HostType) : Except String Unit :=
  (note front.length (positions front) types).map fun _ => ()

/-- The names that are remembered are those of the types passed, the last one first. -/
theorem scans_checkNames : Scans Repeats repeated? checkNames where
  faulty_iff _ _ := repeats_iff
  done _ := rfl
  next front h rest := by
    rw [checkNames, List.map_cons, Catalog.firstRepeat?, repeated?]
    by_cases hm : h.name ∈ front.map (·.name)
    · simp [hm]
    · simp [hm, checkNames]

/-- The index that is filled is that of the types passed. -/
theorem scans_checkPositions : Scans Repeats repeated? checkPositions where
  faulty_iff _ _ := repeats_iff
  done _ := rfl
  next front h rest := by
    have hknown : (positions front).contains h.name = decide (h.name ∈ front.map (·.name)) := by
      rw [Bool.eq_iff_iff, decide_eq_true_iff, Std.HashMap.contains_iff_mem, mem_positions_iff]
    have hfilled : (front ++ [h]).length = front.length + 1 := List.length_append
    rw [checkPositions, checkPositions, note_cons, hknown, repeated?, positions_concat, hfilled]
    by_cases hm : h.name ∈ front.map (·.name)
    · simp [hm, Except.map]
    · simp [hm]

/-- What the loop returns is the index of the types behind those it began with. -/
theorem note_eq_ok {front types : List HostType} {index : Index}
    (h : note front.length (positions front) types = .ok index) :
    index = positions (front ++ types) := by
  induction types generalizing front with
  | nil =>
    cases h
    rw [List.append_nil]
  | cons t rest ih =>
    rw [note_cons] at h
    split at h
    · cases h
    · have hfilled : (front ++ [t]).length = front.length + 1 := List.length_append
      rw [← positions_concat, ← hfilled] at h
      rw [List.append_cons, ih h]

theorem eq_positions {types : List HostType} {index : Index} (h : note 0 ∅ types = .ok index) :
    index = positions types := by
  have hindex : index = positions ([] ++ types) := note_eq_ok h
  rw [hindex, List.nil_append]

/-! ## The catalog of a list -/

/-- Whether a type is the first one whose name is that of an earlier one. -/
structure IsFirstRepeat (types : List HostType) (h : HostType) (front : List HostType) : Prop where
  place : ∃ behind, types = front ++ h :: behind
  repeated : h.name ∈ front.map (·.name)
  distinct : (front.map (·.name)).Nodup

theorem isFirst_iff {types front : List HostType} {h : HostType} :
    IsFirst Repeats types front h ↔ IsFirstRepeat types h front :=
  ⟨fun hf => ⟨hf.place, hf.fault, isFaultless_repeats_iff.mp hf.sound⟩,
    fun hf => ⟨hf.place, hf.repeated, isFaultless_repeats_iff.mpr hf.distinct⟩⟩

/-- A scan for repeated names reports the name of the first type that repeats one. -/
theorem exists_first_iff {types : List HostType} {name : String} :
    (∃ front h, IsFirst Repeats types front h ∧ repeated? front h = some name) ↔
      ∃ front h, IsFirstRepeat types h front ∧ h.name = name := by
  refine exists_congr fun front => exists_congr fun h => ?_
  rw [isFirst_iff]
  refine and_congr_right fun hf => ?_
  rw [repeated?, if_pos hf.repeated, Option.some.injEq]

section
variable {types : List HostType}

theorem ofTypes_eq_ok_iff {c : Catalog} :
    Catalog.ofTypes types = .ok c ↔ (types.map (·.name)).Nodup ∧ c.types = types := by
  have hscan : checkNames [] types = .ok () ↔ (types.map (·.name)).Nodup :=
    scans_checkNames.eq_ok_iff.trans isFaultless_repeats_iff
  unfold checkNames at hscan
  rw [List.map_nil, List.reverse_nil] at hscan
  rw [← hscan]
  unfold Catalog.ofTypes
  split
  · rename_i name h
    simp [h]
  · rename_i h
    simp only [h, true_and, Except.ok.injEq]
    constructor
    · rintro rfl
      rfl
    · rintro rfl
      rfl

theorem ofTypes_eq_error_iff {name : String} :
    Catalog.ofTypes types = .error name ↔
      ∃ front h, IsFirstRepeat types h front ∧ h.name = name := by
  have hscan : checkNames [] types = .error name ↔ _ :=
    scans_checkNames.eq_error_iff.trans exists_first_iff
  unfold checkNames at hscan
  rw [List.map_nil, List.reverse_nil] at hscan
  rw [← hscan]
  unfold Catalog.ofTypes
  split
  · rename_i found h
    simp [h]
  · rename_i h
    simp [h]

theorem ofDecoded_eq_ok_iff {c : Catalog} :
    Catalog.ofDecoded types = .ok c ↔ Catalog.ofTypes types = .ok c := by
  unfold Catalog.ofDecoded
  cases Catalog.ofTypes types <;> simp [Except.mapError]

theorem ofDecoded_eq_error_iff {e : LoadError} :
    Catalog.ofDecoded types = .error e ↔
      ∃ name, Catalog.ofTypes types = .error name ∧ e = .duplicateType name := by
  unfold Catalog.ofDecoded
  cases Catalog.ofTypes types <;> simp [Except.mapError, eq_comm]

theorem note_eq_ok_iff {index : Index} :
    note 0 ∅ types = .ok index ↔ (types.map (·.name)).Nodup ∧ index = positions types := by
  have hscan : (note 0 ∅ types).map (fun _ => ()) = .ok () ↔ (types.map (·.name)).Nodup :=
    scans_checkPositions.eq_ok_iff.trans isFaultless_repeats_iff
  rw [← hscan]
  constructor
  · intro h
    exact ⟨by rw [h]; rfl, eq_positions h⟩
  · rintro ⟨h, rfl⟩
    cases hn : note 0 ∅ types with
    | error name =>
      rw [hn] at h
      cases h
    | ok index => rw [eq_positions hn]

theorem note_eq_error_iff {name : String} :
    note 0 ∅ types = .error name ↔ ∃ front h, IsFirstRepeat types h front ∧ h.name = name := by
  have hscan : (note 0 ∅ types).map (fun _ => ()) = .error name ↔ _ :=
    scans_checkPositions.eq_error_iff.trans exists_first_iff
  rw [← hscan]
  cases note 0 ∅ types <;> simp [Except.map]

/-- Looking a name up in the list, and looking its position up, give the same type. -/
theorem get?_eq_positions {c : Catalog} (hc : c.types = types) (name : String) :
    c.get? name = (positions types)[name]?.bind (types[·]?) := by
  subst hc
  cases hg : c.get? name with
  | some h =>
    obtain ⟨hm, rfl⟩ := get?_eq_some_iff.mp hg
    obtain ⟨i, hi⟩ := List.mem_iff_getElem?.mp hm
    have hp : (positions c.types)[h.name]? = some i :=
      (getElem?_positions c.distinct h.name i).mpr (by rw [List.getElem?_map, hi]; rfl)
    rw [hp, Option.bind_some, hi]
  | none =>
    have hnone := get?_eq_none_iff.mp hg
    have hp : (positions c.types)[name]? = none := by
      refine Std.HashMap.getElem?_eq_none fun hm => ?_
      rw [mem_positions_iff] at hm
      obtain ⟨h, hh, hn⟩ := List.mem_map.mp hm
      exact hnone h hh hn
    rw [hp, Option.bind_none]

theorem resolve?_eq_none_iff {c : Catalog} {type : String} {package : Option String} :
    c.resolve? type package = none ↔
      ∀ h ∈ c.types, h.name ≠ type ∧ ∀ p, package = some p → h.name ≠ p ++ "." ++ type := by
  rw [Option.eq_none_iff_forall_ne_some]
  constructor
  · intro hall
    have hbare : ∀ h ∈ c.types, h.name ≠ type := fun h hh hn =>
      hall h (resolve?_eq_some_iff.mpr ⟨hh, Or.inl hn⟩)
    exact fun h hh => ⟨hbare h hh, fun p hp hn =>
      hall h (resolve?_eq_some_iff.mpr ⟨hh, Or.inr ⟨hbare, p, hp, hn⟩⟩)⟩
  · intro hall h hr
    obtain ⟨hh, hn | ⟨-, p, hp, hn⟩⟩ := resolve?_eq_some_iff.mp hr
    · exact (hall h hh).1 hn
    · exact (hall h hh).2 p hp hn

end

/-- How a catalog of a list of types answers, and its index with it. -/
structure Answers (types : List HostType) (c : Catalog) (index : Index) : Prop where
  types_eq : c.types = types
  /-- The index holds the names of the types, each with its position. -/
  position_iff : ∀ (name : String) (i : Nat),
    index[name]? = some i ↔ (types.map (·.name))[i]? = some name
  /-- A name is found in the list as it is found through the index. -/
  get?_eq : ∀ name, c.get? name = index[name]?.bind (types[·]?)
  get?_eq_some_iff : ∀ name h, c.get? name = some h ↔ h ∈ types ∧ h.name = name
  get?_eq_none_iff : ∀ name, c.get? name = none ↔ ∀ h ∈ types, h.name ≠ name
  /-- A type text means the type of that name, or else the one of that name inside the package. -/
  resolve?_eq_some_iff : ∀ type package h,
    c.resolve? type package = some h ↔ h ∈ types ∧ (h.name = type ∨
      (∀ other ∈ types, other.name ≠ type) ∧
        ∃ p, package = some p ∧ h.name = p ++ "." ++ type)
  resolve?_eq_none_iff : ∀ type package, c.resolve? type package = none ↔
    ∀ h ∈ types, h.name ≠ type ∧ ∀ p, package = some p → h.name ≠ p ++ "." ++ type

theorem answers_of_ofTypes {types : List HostType} {c : Catalog}
    (h : Catalog.ofTypes types = .ok c) : Answers types c (positions types) := by
  obtain ⟨hd, rfl⟩ := ofTypes_eq_ok_iff.mp h
  exact {
    types_eq := rfl
    position_iff := getElem?_positions hd
    get?_eq := get?_eq_positions rfl
    get?_eq_some_iff := fun name h => get?_eq_some_iff
    get?_eq_none_iff := fun name => Reference.get?_eq_none_iff
    resolve?_eq_some_iff := fun type package h =>
      Reference.resolve?_eq_some_iff.trans ⟨fun hm => ⟨hm.listed, hm.named⟩, fun hm => ⟨hm.1, hm.2⟩⟩
    resolve?_eq_none_iff := fun type package => resolve?_eq_none_iff }

/-- A list of types makes a catalog exactly if its names are distinct, and else the name of the
first type that repeats one is reported. The catalog keeps the list and finds the types by their
names; the loop that fills an index of positions accepts and refuses the same lists, and its index
finds the same types. -/
theorem catalog_outcome (types : List HostType) :
    ((∃ c, Catalog.ofDecoded types = .ok c) ↔ (types.map (·.name)).Nodup) ∧
    (∀ e, Catalog.ofDecoded types = .error e ↔
      ∃ front h, IsFirstRepeat types h front ∧ e = .duplicateType h.name) ∧
    (∀ c, Catalog.ofDecoded types = .ok c →
      ∃ index, note 0 ∅ types = .ok index ∧ Answers types c index) ∧
    (∀ name, note 0 ∅ types = .error name ↔
      Catalog.ofDecoded types = .error (.duplicateType name)) := by
  refine ⟨?_, fun e => ?_, fun c hc => ?_, fun name => ?_⟩
  · simp only [ofDecoded_eq_ok_iff, ofTypes_eq_ok_iff]
    exact ⟨fun ⟨_, hd, _⟩ => hd, fun hd => ⟨⟨types, hd⟩, hd, rfl⟩⟩
  · rw [ofDecoded_eq_error_iff]
    simp only [ofTypes_eq_error_iff]
    constructor
    · rintro ⟨name, ⟨front, h, hf, rfl⟩, he⟩
      exact ⟨front, h, hf, he⟩
    · rintro ⟨front, h, hf, he⟩
      exact ⟨h.name, ⟨front, h, hf, rfl⟩, he⟩
  · have hc := ofDecoded_eq_ok_iff.mp hc
    have hd := (ofTypes_eq_ok_iff.mp hc).1
    exact ⟨positions types, note_eq_ok_iff.mpr ⟨hd, rfl⟩, answers_of_ofTypes hc⟩
  · rw [ofDecoded_eq_error_iff, note_eq_error_iff, ← ofTypes_eq_error_iff]
    simp

end RecordBean.Indexing
