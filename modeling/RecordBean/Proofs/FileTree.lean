import RecordBean.Emission
import RecordBean.Proofs.Path

/-! # Writing into a file tree

What a tree can have become when directories were made and a file was written. Making directories
adds some on the way and changes nothing else, whether it succeeds or not (`Grows`). Writing a file
fails after that, or it replaces the one file that the path leads to (`writeText_cases`). Where no
file stands on the way, no directory at its end, and no limit is in the way, it succeeds
(`writeText_eq`). -/

namespace RecordBean.FileTree

/-! ## Ways -/

/-- One step of a way, whatever a tree holds. -/
def follow (l : Location) (s : String) : Location := if s = Path.up then l.dropLast else l ++ [s]

/-- Where steps lead if nothing stands in the way. -/
def reach (l : Location) (steps : List String) : Location := steps.foldl follow l

/-- Where a path leads if nothing stands in the way. -/
def destination (t : FileTree) (path : String) : Location :=
  reach (t.start path) (Path.steps path)

/-- The places that steps pass, the last one included. -/
def OnWay (l : Location) (steps : List String) (k : Location) : Prop :=
  ∃ front, front <+: steps ∧ k = reach l front

theorem reach_cons (l : Location) (s : String) (rest : List String) :
    reach l (s :: rest) = reach (follow l s) rest := rfl

theorem reach_append (l : Location) (a b : List String) :
    reach l (a ++ b) = reach (reach l a) b := List.foldl_append

/-- Without steps up, a way only leads down. -/
theorem reach_of_notMem {l : Location} {steps : List String} (h : Path.up ∉ steps) :
    reach l steps = l ++ steps := by
  induction steps generalizing l with
  | nil => simp [reach]
  | cons s rest ih =>
    obtain ⟨hs, hr⟩ := not_or.mp (List.mem_cons.not.mp h)
    rw [reach_cons, ih hr, follow, if_neg (Ne.symm hs), List.append_assoc]
    rfl

/-- The places that steps go down to, the last one included. -/
def GoesThrough (l : Location) (steps : List String) (k : Location) : Prop :=
  ∃ front s, front ++ [s] <+: steps ∧ s ≠ Path.up ∧ k = reach l (front ++ [s])

theorem goesThrough_cons {l k : Location} {s : String} {rest : List String} :
    GoesThrough l (s :: rest) k ↔
      (s ≠ Path.up ∧ k = follow l s) ∨ GoesThrough (follow l s) rest k := by
  constructor
  · rintro ⟨front, r, hf, hr, rfl⟩
    cases front with
    | nil =>
      obtain ⟨rfl, -⟩ := List.cons_prefix_cons.mp hf
      exact Or.inl ⟨hr, rfl⟩
    | cons a front =>
      obtain ⟨rfl, hrest⟩ := List.cons_prefix_cons.mp hf
      exact Or.inr ⟨front, r, hrest, hr, rfl⟩
  · rintro (⟨hs, rfl⟩ | ⟨front, r, hf, hr, rfl⟩)
    · exact ⟨[], s, List.cons_prefix_cons.mpr ⟨rfl, List.nil_prefix⟩, hs, rfl⟩
    · exact ⟨s :: front, r, List.cons_prefix_cons.mpr ⟨rfl, hf⟩, hr, rfl⟩

theorem not_goesThrough_nil {l k : Location} : ¬ GoesThrough l [] k := by
  rintro ⟨front, s, hf, -⟩
  simp at hf

theorem GoesThrough.onWay {l k : Location} {steps : List String} (h : GoesThrough l steps k) :
    OnWay l steps k := by
  obtain ⟨front, s, hf, -, rfl⟩ := h
  exact ⟨front ++ [s], hf, rfl⟩

/-- Where a path leads to is settled by the working directory alone. -/
theorem start_of_here {t t' : FileTree} (h : t'.here = t.here) (path : String) :
    t'.start path = t.start path := by
  unfold start
  rw [h]

theorem destination_of_here {t t' : FileTree} (h : t'.here = t.here) (path : String) :
    t'.destination path = t.destination path := by
  unfold destination
  rw [start_of_here h]

theorem start_parent (t : FileTree) (path : String) :
    t.start (Path.parent path) = t.start path := by
  unfold start
  rw [Path.isAbsolute_parent]

/-! ## Nodes -/

theorem node?_put {t : FileTree} {l : Location} {n : FileNode}
    (h : t.node? l ≠ some .directory) (k : Location) :
    (t.put l n).node? k = if l = k then some n else t.node? k := by
  have hl : l.isPrefixOf t.here = false := by
    unfold node? at h
    by_contra hp
    rw [if_pos (by simpa using hp)] at h
    exact h rfl
  unfold node? put
  by_cases hk : l = k
  · rw [if_pos hk, ← hk, if_neg (by simp [hl])]
    simp
  · rw [if_neg hk]
    simp [Std.TreeMap.getElem?_insert, hk]

theorem child_eq_ok_iff {l l' : Location} {name : String} :
    child l name = .ok l' ↔ name.utf8ByteSize ≤ nameLimit ∧ l' = l ++ [name] := by
  unfold child
  split
  · rename_i h
    simp [Nat.not_le.mpr h]
  · rename_i h
    simp [Nat.not_lt.mp h, eq_comm]

/-- A tree in which directories have been made at some of the places given. -/
structure Grows (places : Location → Prop) (before after : FileTree) : Prop where
  here : after.here = before.here
  node : ∀ k, after.node? k = before.node? k ∨
    before.node? k = none ∧ after.node? k = some .directory ∧ places k

section Grows
variable {places : Location → Prop} {a b c : FileTree}

theorem Grows.refl (places : Location → Prop) (t : FileTree) : Grows places t t :=
  ⟨rfl, fun _ => Or.inl rfl⟩

theorem Grows.trans (hab : Grows places a b) (hbc : Grows places b c) : Grows places a c := by
  refine ⟨hbc.here.trans hab.here, fun k => ?_⟩
  rcases hbc.node k with hc | ⟨hb, hc, hk⟩
  · rw [hc]
    exact hab.node k
  · rcases hab.node k with ha | ⟨-, hb', -⟩
    · exact Or.inr ⟨ha ▸ hb, hc, hk⟩
    · rw [hb] at hb'
      cases hb'

theorem Grows.mono {more : Location → Prop} (h : Grows places a b)
    (hm : ∀ k, places k → more k) : Grows more a b := by
  refine ⟨h.here, fun k => ?_⟩
  rcases h.node k with hk | ⟨hn, hd, hp⟩
  · exact Or.inl hk
  · exact Or.inr ⟨hn, hd, hm k hp⟩

theorem Grows.directory (h : Grows places a b) {k : Location}
    (hk : a.node? k = some .directory) : b.node? k = some .directory := by
  rcases h.node k with hb | ⟨-, hb, -⟩
  · rw [hb, hk]
  · exact hb

/-- Files stay as they are, and none is added. -/
theorem Grows.file_iff (h : Grows places a b) {k : Location} {content : Content} :
    b.node? k = some (.file content) ↔ a.node? k = some (.file content) := by
  rcases h.node k with hb | ⟨ha, hb, -⟩
  · rw [hb]
  · rw [ha, hb]
    simp

theorem grows_put {l : Location} (hl : a.node? l = none) (hp : places l) :
    Grows places a (a.put l .directory) := by
  have hd : a.node? l ≠ some .directory := by simp [hl]
  refine ⟨rfl, fun k => ?_⟩
  rw [node?_put hd]
  by_cases hk : l = k
  · rw [if_pos hk]
    exact Or.inr ⟨hk ▸ hl, rfl, hk ▸ hp⟩
  · rw [if_neg hk]
    exact Or.inl rfl

end Grows

/-! ## Directories -/

/-- Whether one can go on by a step without changing anything. -/
def Passable (t : FileTree) (l : Location) (s : String) : Prop :=
  s = Path.up ∨ s.utf8ByteSize ≤ nameLimit ∧ t.node? (follow l s) = some .directory

/-- What keeps one from going on by a step and from making a directory for it. -/
def Blocked (t : FileTree) (l : Location) (s : String) : Prop :=
  s ≠ Path.up ∧ (nameLimit < s.utf8ByteSize ∨ ∃ content, t.node? (follow l s) = some (.file content))

/-- Whether a directory can be made to go on by a step. -/
def Vacant (t : FileTree) (l : Location) (s : String) : Prop :=
  s ≠ Path.up ∧ s.utf8ByteSize ≤ nameLimit ∧ t.node? (follow l s) = none

theorem enter_cons_eq_ok_iff {t : FileTree} {l l' : Location} {s : String} {rest : List String} :
    t.enter l (s :: rest) = .ok l' ↔ Passable t l s ∧ t.enter (follow l s) rest = .ok l' := by
  rw [enter, Passable]
  by_cases hs : s = Path.up
  · simp [hs, follow]
  · rw [if_neg hs]
    have hfollow : follow l s = l ++ [s] := if_neg hs
    rw [hfollow]
    by_cases hlong : nameLimit < s.utf8ByteSize
    · have hchild : child l s = .error .nameTooLong := if_pos hlong
      simp [hchild, bind, Except.bind, hs, Nat.not_le.mpr hlong]
    · have hshort := Nat.not_lt.mp hlong
      have hchild : child l s = .ok (l ++ [s]) := if_neg hlong
      simp only [hchild, bind, Except.bind, hs, hshort, true_and, false_or]
      cases hn : t.node? (l ++ [s]) with
      | none => simp
      | some n => cases n <;> simp

/-- All that making a directory on the way can do at one step: pass, stop, or make the directory and
go on. -/
theorem makeOnWay_cons (t : FileTree) (made : Bool) (l : Location) (s : String)
    (rest : List String) :
    (Passable t l s ∧ t.makeOnWay made l (s :: rest) = t.makeOnWay made (follow l s) rest) ∨
    (Blocked t l s ∧ ∃ e, t.makeOnWay made l (s :: rest) = (t, .error e)) ∨
    (Vacant t l s ∧ t.makeOnWay made l (s :: rest) =
      (t.put (follow l s) .directory).makeOnWay true (follow l s) rest) := by
  rw [makeOnWay, Passable, Blocked, Vacant]
  by_cases hs : s = Path.up
  · refine Or.inl ⟨Or.inl hs, ?_⟩
    rw [if_pos hs, follow, if_pos hs]
  · rw [if_neg hs]
    have hfollow : follow l s = l ++ [s] := if_neg hs
    rw [hfollow]
    by_cases hlong : nameLimit < s.utf8ByteSize
    · have hchild : child l s = .error .nameTooLong := if_pos hlong
      rw [hchild]
      exact Or.inr (Or.inl ⟨⟨hs, Or.inl hlong⟩, _, rfl⟩)
    · have hshort := Nat.not_lt.mp hlong
      have hchild : child l s = .ok (l ++ [s]) := if_neg hlong
      rw [hchild]
      simp only
      cases hn : t.node? (l ++ [s]) with
      | none => exact Or.inr (Or.inr ⟨⟨hs, hshort, rfl⟩, rfl⟩)
      | some n =>
        cases n with
        | directory => exact Or.inl ⟨Or.inr ⟨hshort, rfl⟩, rfl⟩
        | file content => exact Or.inr (Or.inl ⟨⟨hs, Or.inr ⟨content, rfl⟩⟩, _, rfl⟩)

theorem Passable.not_blocked {t : FileTree} {l : Location} {s : String} (h : Passable t l s) :
    ¬ Blocked t l s := by
  rintro ⟨hs, hb⟩
  rcases h with h | ⟨hshort, hd⟩
  · exact hs h
  · rcases hb with hlong | ⟨content, hf⟩
    · omega
    · rw [hd] at hf
      cases hf

theorem Passable.not_vacant {t : FileTree} {l : Location} {s : String} (h : Passable t l s) :
    ¬ Vacant t l s := by
  rintro ⟨hs, -, hn⟩
  rcases h with h | ⟨-, hd⟩
  · exact hs h
  · rw [hd] at hn
    cases hn

/-- Directories are made only where a way goes down. -/
theorem makeOnWay_grows_down (t : FileTree) (made : Bool) (l : Location) (steps : List String) :
    Grows (GoesThrough l steps) t (t.makeOnWay made l steps).1 := by
  induction steps generalizing t made l with
  | nil => exact Grows.refl _ t
  | cons s rest ih =>
    have hcons (t : FileTree) (made : Bool) :=
      (ih t made (follow l s)).mono fun _ hk => goesThrough_cons.mpr (Or.inr hk)
    rcases makeOnWay_cons t made l s rest with ⟨-, he⟩ | ⟨-, e, he⟩ | ⟨⟨hs, -, hn⟩, he⟩
    · rw [he]
      exact hcons t made
    · rw [he]
      exact Grows.refl _ t
    · rw [he]
      exact (grows_put hn (goesThrough_cons.mpr (Or.inl ⟨hs, rfl⟩))).trans (hcons _ true)

theorem makeOnWay_grows (t : FileTree) (made : Bool) (l : Location) (steps : List String) :
    Grows (OnWay l steps) t (t.makeOnWay made l steps).1 :=
  (makeOnWay_grows_down t made l steps).mono fun _ hk => hk.onWay

/-- Directories can be made along a way exactly if its names are short enough and no file stands
where it goes down. -/
theorem exists_makeOnWay_iff {t : FileTree} {made : Bool} {l : Location} {steps : List String} :
    (∃ l', (t.makeOnWay made l steps).2 = .ok l') ↔
      (∀ s ∈ steps, s.utf8ByteSize ≤ nameLimit) ∧
      ∀ k, GoesThrough l steps k → ∀ content, t.node? k ≠ some (.file content) := by
  induction steps generalizing t made l with
  | nil =>
    refine iff_of_true ⟨l, rfl⟩ ⟨by simp, fun k hk => ?_⟩
    exact absurd hk not_goesThrough_nil
  | cons s rest ih =>
    simp only [List.forall_mem_cons, goesThrough_cons, or_imp, forall_and]
    rcases makeOnWay_cons t made l s rest with ⟨hp, he⟩ | ⟨⟨hs, hb⟩, e, he⟩ | ⟨⟨hs, hshort, hn⟩, he⟩
    · rw [he, ih]
      have hsize : s.utf8ByteSize ≤ nameLimit := by
        rcases hp with rfl | ⟨hshort, -⟩
        · decide
        · exact hshort
      have hfirst : ∀ k, s ≠ Path.up ∧ k = follow l s → ∀ content,
          t.node? k ≠ some (.file content) := by
        rintro k ⟨hs, rfl⟩ content
        rcases hp with hup | ⟨-, hd⟩
        · exact absurd hup hs
        · simp [hd]
      rw [and_iff_right hsize, and_iff_right hfirst]
    · rw [he]
      refine iff_of_false (by simp) ?_
      rintro ⟨⟨hsize, -⟩, hfirst, -⟩
      rcases hb with hlong | ⟨content, hf⟩
      · omega
      · exact hfirst _ ⟨hs, rfl⟩ content hf
    · have hg : Grows (fun _ => True) t (t.put (follow l s) .directory) := grows_put hn trivial
      have hfirst : ∀ k, s ≠ Path.up ∧ k = follow l s → ∀ content,
          t.node? k ≠ some (.file content) := by
        rintro k ⟨-, rfl⟩ content
        simp [hn]
      rw [he, ih, and_iff_right hshort, and_iff_right hfirst]
      simp only [hg.file_iff, ne_eq]

theorem enter_eq_ok {t : FileTree} {l l' : Location} {steps : List String}
    (h : t.enter l steps = .ok l') : l' = reach l steps := by
  induction steps generalizing l with
  | nil =>
    cases h
    rfl
  | cons s rest ih =>
    rw [reach_cons]
    exact ih (enter_cons_eq_ok_iff.mp h).2

/-- Where a way can be entered, it goes down to directories only. -/
theorem directory_of_enter {t : FileTree} {l l' k : Location} {steps : List String}
    (h : t.enter l steps = .ok l') (hk : GoesThrough l steps k) :
    t.node? k = some .directory := by
  induction steps generalizing l with
  | nil => exact absurd hk not_goesThrough_nil
  | cons s rest ih =>
    obtain ⟨hp, hr⟩ := enter_cons_eq_ok_iff.mp h
    rcases goesThrough_cons.mp hk with ⟨hs, rfl⟩ | hk
    · rcases hp with hup | ⟨-, hd⟩
      · exact absurd hup hs
      · exact hd
    · exact ih hr hk

/-- Directories that exist are only passed. -/
theorem makeOnWay_of_enter {t : FileTree} {l l' : Location} {steps : List String}
    (h : t.enter l steps = .ok l') (made : Bool) (more : List String) :
    t.makeOnWay made l (steps ++ more) = t.makeOnWay made l' more := by
  induction steps generalizing l with
  | nil =>
    cases h
    rfl
  | cons s rest ih =>
    obtain ⟨hp, hr⟩ := enter_cons_eq_ok_iff.mp h
    rw [List.cons_append]
    rcases makeOnWay_cons t made l s (rest ++ more) with ⟨-, he⟩ | ⟨hb, -⟩ | ⟨hv, -⟩
    · rw [he]
      exact ih hr
    · exact absurd hb hp.not_blocked
    · exact absurd hv hp.not_vacant

/-- What can be entered stays so as long as no directory is lost. -/
theorem enter_of_enter {t t' : FileTree} {l l' : Location} {steps : List String}
    (hd : ∀ k, t.node? k = some .directory → t'.node? k = some .directory)
    (h : t.enter l steps = .ok l') : t'.enter l steps = .ok l' := by
  induction steps generalizing l with
  | nil => exact h
  | cons s rest ih =>
    obtain ⟨hp, hr⟩ := enter_cons_eq_ok_iff.mp h
    exact enter_cons_eq_ok_iff.mpr ⟨hp.imp_right fun hn => ⟨hn.1, hd _ hn.2⟩, ih hr⟩

theorem enter_append (t : FileTree) (l : Location) (a b : List String) :
    t.enter l (a ++ b) = (t.enter l a).bind fun inner => t.enter inner b := by
  induction a generalizing l with
  | nil => rfl
  | cons s a ih =>
    rw [List.cons_append, enter, enter]
    by_cases hs : s = Path.up
    · rw [if_pos hs, if_pos hs, ih]
    · rw [if_neg hs, if_neg hs]
      cases child l s with
      | error e => rfl
      | ok inner =>
        simp only [bind, Except.bind]
        cases t.node? inner with
        | none => rfl
        | some n =>
          cases n with
          | directory => exact ih inner
          | file content => rfl

/-- Directories that have been made can be entered. -/
theorem enter_of_makeOnWay {t : FileTree} {made : Bool} {l l' : Location} {steps : List String}
    (h : (t.makeOnWay made l steps).2 = .ok l') :
    (t.makeOnWay made l steps).1.enter l steps = .ok l' := by
  induction steps generalizing t made l with
  | nil => exact h
  | cons s rest ih =>
    rw [enter_cons_eq_ok_iff]
    have hg (t : FileTree) (made : Bool) := makeOnWay_grows t made (follow l s) rest
    rcases makeOnWay_cons t made l s rest with ⟨hp, he⟩ | ⟨-, e, he⟩ | ⟨⟨-, hshort, hn⟩, he⟩
    · rw [he] at h ⊢
      exact ⟨hp.imp_right fun hn => ⟨hn.1, (hg t made).directory hn.2⟩, ih h⟩
    · rw [he] at h
      cases h
    · rw [he] at h ⊢
      have hput : (t.put (follow l s) .directory).node? (follow l s) = some .directory := by
        rw [node?_put (by simp [hn]), if_pos rfl]
      exact ⟨Or.inr ⟨hshort, (hg _ true).directory hput⟩, ih h⟩

/-- Over a way without steps up that no file stands on, directories can be made, as far as the
names are short enough. -/
theorem makeOnWay_of_free {t : FileTree} {made : Bool} {l : Location} {steps : List String}
    (hup : Path.up ∉ steps) (hsize : ∀ s ∈ steps, s.utf8ByteSize ≤ nameLimit)
    (hfree : ∀ front, front <+: steps → ∀ content, t.node? (l ++ front) ≠ some (.file content)) :
    (t.makeOnWay made l steps).2 = .ok (l ++ steps) := by
  have hdown : ∀ k, GoesThrough l steps k → ∀ content, t.node? k ≠ some (.file content) := by
    rintro k ⟨front, s, hf, -, rfl⟩
    rw [reach_of_notMem fun h => hup (hf.subset h)]
    exact hfree _ hf
  obtain ⟨l', h⟩ := exists_makeOnWay_iff.mpr ⟨hsize, hdown⟩
  rw [h, enter_eq_ok (enter_of_makeOnWay h), reach_of_notMem hup]

/-! ## Files -/

/-- A path that leads somewhere is one of directories, or its last name stands in one. -/
theorem locate_cases {t : FileTree} {path : String} {l : Location} (h : t.locate path = .ok l) :
    pathFault? path = none ∧
      (t.enter (t.start path) (Path.steps path) = .ok l ∨
        ∃ front last above, Path.steps path = front ++ [last] ∧ last ≠ Path.up ∧
          last.utf8ByteSize ≤ nameLimit ∧ t.enter (t.start path) front = .ok above ∧
          l = above ++ [last]) := by
  simp only [locate] at h
  split at h
  · cases h
  · rename_i hf hlast
    rw [List.getLast?_eq_none_iff.mp hlast]
    exact ⟨hf, Or.inl h⟩
  · rename_i last hf hlast
    refine ⟨hf, ?_⟩
    split at h
    · exact Or.inl h
    · rename_i hup
      cases he : t.enter (t.start path) (Path.steps path).dropLast with
      | error e =>
        rw [he] at h
        cases h
      | ok above =>
        rw [he] at h
        obtain ⟨hshort, hl⟩ := child_eq_ok_iff.mp h
        exact Or.inr ⟨_, last, above, (List.dropLast_append_getLast? last hlast).symm, hup, hshort,
          he, hl⟩

theorem locate_eq_ok {t : FileTree} {path : String} {l : Location} (h : t.locate path = .ok l) :
    l = t.destination path := by
  unfold destination
  rcases (locate_cases h).2 with he | ⟨front, last, above, hs, hup, -, he, hl⟩
  · exact enter_eq_ok he
  · rw [hs, reach_append, ← enter_eq_ok he, reach_cons, follow, if_neg hup, hl]
    rfl

/-- In a directory that can be entered, only the name of a file is left to be looked at. -/
theorem locate_eq_child {t : FileTree} {path name : String} {front : List String} {l : Location}
    (hf : pathFault? path = none) (hs : Path.steps path = front ++ [name]) (hup : name ≠ Path.up)
    (he : t.enter (t.start path) front = .ok l) : t.locate path = child l name := by
  unfold locate
  simp only [hf, hs, List.getLast?_concat, List.dropLast_concat, if_neg hup, he]
  rfl

theorem locate_of_enter {t : FileTree} {path name : String} {front : List String} {l : Location}
    (hf : pathFault? path = none) (hs : Path.steps path = front ++ [name]) (hup : name ≠ Path.up)
    (hshort : name.utf8ByteSize ≤ nameLimit) (he : t.enter (t.start path) front = .ok l) :
    t.locate path = .ok (l ++ [name]) := by
  rw [locate_eq_child hf hs hup he]
  exact child_eq_ok_iff.mpr ⟨hshort, rfl⟩

theorem makeDirectories_grows (t : FileTree) (path : String) :
    Grows (OnWay (t.start path) (Path.steps path)) t (t.makeDirectories path).1 := by
  unfold makeDirectories
  split
  · exact Grows.refl _ t
  · exact makeOnWay_grows t false (t.start path) (Path.steps path)

/-- The way to the directory of a path. -/
def OnWayAbove (t : FileTree) (path : String) : Location → Prop :=
  OnWay (t.start path) (Path.steps path).dropLast

theorem makeDirectories_parent_grows (t : FileTree) (path : String) :
    Grows (OnWayAbove t path) t (t.makeDirectories (Path.parent path)).1 := by
  have hg := makeDirectories_grows t (Path.parent path)
  rw [start_parent, Path.steps_parent] at hg
  exact hg

/-- All that writing a file can do: make directories and fail, or make directories and replace the
file that the path leads to. -/
theorem writeText_cases (t : FileTree) (path text : String) :
    (∃ t' e, t.writeText path text = (t', some e) ∧ Grows (OnWayAbove t path) t t') ∨
    (∃ t', t.writeText path text = (t'.put (t.destination path) (.file (.text text)), none) ∧
      Grows (OnWayAbove t path) t t' ∧ t'.locate path = .ok (t.destination path) ∧
      t'.node? (t.destination path) ≠ some .directory) := by
  have hg := makeDirectories_parent_grows t path
  unfold writeText
  simp only
  split
  · rename_i t' e hm
    rw [hm] at hg
    exact Or.inl ⟨t', e, rfl, hg⟩
  · rename_i t' l hm
    rw [hm] at hg
    split
    · exact Or.inl ⟨t', .nameTooLong, rfl, hg⟩
    · split
      · rename_i e _
        exact Or.inl ⟨t', e, rfl, hg⟩
      · rename_i place hp
        have hplace : place = t.destination path :=
          (locate_eq_ok hp).trans (destination_of_here hg.here path)
        split
        · exact Or.inl ⟨t', .isADirectory, rfl, hg⟩
        · rename_i hd
          subst hplace
          exact Or.inr ⟨t', rfl, hg, hp, by simpa [isDirectory] using hd⟩

/-- Writing a file changes no file but the one that the path leads to. -/
theorem writeText_file_iff {t : FileTree} {path text : String} {k : Location} {content : Content}
    (hk : k ≠ t.destination path) :
    (t.writeText path text).1.node? k = some (.file content) ↔
      t.node? k = some (.file content) := by
  rcases writeText_cases t path text with ⟨t', e, he, hg⟩ | ⟨t', he, hg, -, hd⟩
  · rw [he]
    exact hg.file_iff
  · rw [he, node?_put hd, if_neg (Ne.symm hk)]
    exact hg.file_iff

theorem writeText_here (t : FileTree) (path text : String) :
    (t.writeText path text).1.here = t.here := by
  rcases writeText_cases t path text with ⟨t', e, he, hg⟩ | ⟨t', he, hg, -⟩
  · rw [he]
    exact hg.here
  · rw [he]
    exact hg.here

theorem start_ofClass (t : FileTree) {package : Option String} {className : String}
    (hn : '/' ∉ className.toList) (hp : Path.IsRelative package) (root : String) :
    t.start (Path.ofClass root package className) = t.start root := by
  have hany : (Path.partsOf package).any Path.isAbsolute = false := by
    rw [Bool.eq_false_iff, Ne, Path.any_isAbsolute_eq_true_iff, not_not]
    exact hp
  unfold start
  rw [Path.isAbsolute_ofClass hn, hany, Bool.false_or]

/-- Below the place of the root, the file of a class of a relative package has a fixed place. -/
theorem destination_ofClass (t : FileTree) {package : Option String} {className : String}
    (hn : '/' ∉ className.toList) (hp : Path.IsRelative package) (root : String) :
    t.destination (Path.ofClass root package className) =
      t.destination root ++ Path.placeOf package className := by
  unfold destination
  rw [start_ofClass t hn hp, Path.steps_ofClass hn hp, reach_append,
    reach_of_notMem (Path.up_notMem_placeOf package className)]

/-- Since every class has a directory to lie in, a delivery is written or fails in writing. -/
theorem deliver_sinkBy (write : FileTree → String → String → FileTree × Option IoFailure)
    (root : String) (d : Delivery) (t : FileTree) :
    (sinkBy write root).deliver d t =
      match write t (Path.ofClass root d.package d.className) d.source with
      | (t, some failure) =>
        (.error (.io (Path.ofClass root d.package d.className) failure), t)
      | (t, none) => (.ok [.beanWritten (Path.ofClass root d.package d.className)], t) :=
  if_pos (Path.hasParent_ofClass root d.package d.className)

/-! ## Limits -/

/-- That a path and the draft of its file are not too long, and that no name on it is. -/
structure WithinLimits (t : FileTree) (path : String) : Prop where
  fault : pathFault? path = none
  names : ∀ s ∈ Path.steps path, s.utf8ByteSize ≤ nameLimit
  draft : t.hasRoomForDraft (Path.parent path) = true

theorem hasRoomForDraft_of_here {t t' : FileTree} (h : t'.here = t.here) (directory : String) :
    t'.hasRoomForDraft directory = t.hasRoomForDraft directory := by
  unfold hasRoomForDraft absolute
  rw [h]

theorem WithinLimits.of_here {t t' : FileTree} {path : String} (hw : t.WithinLimits path)
    (h : t'.here = t.here) : t'.WithinLimits path :=
  ⟨hw.fault, hw.names, (hasRoomForDraft_of_here h _).trans hw.draft⟩

theorem pathFault?_eq_none_iff {path : String} :
    pathFault? path = none ↔ '\x00' ∉ path.toList ∧ path.utf8ByteSize ≤ pathLimit := by
  unfold pathFault?
  by_cases hn : '\x00' ∈ path.toList
  · simp [hn]
  · simp [hn]

theorem pathFault?_parent {path : String} (h : pathFault? path = none) :
    pathFault? (Path.parent path) = none := by
  rw [pathFault?_eq_none_iff] at h ⊢
  obtain ⟨rest, hr⟩ := Path.parent_isPrefix path
  refine ⟨fun hn => h.1 ((Path.parent_isPrefix path).subset hn), ?_⟩
  have hpath : path = Path.parent path ++ String.ofList rest := by
    apply String.toList_injective
    rw [String.toList_append, String.toList_ofList, hr]
  have hsize := congrArg String.utf8ByteSize hpath
  rw [String.utf8ByteSize_append] at hsize
  omega

/-- In a directory that has been made, the file that a path leads to can be located. -/
theorem locate_of_makeOnWay {t : FileTree} {path name : String} {front : List String}
    {l : Location} (hw : t.WithinLimits path) (hs : Path.steps path = front ++ [name])
    (hup : name ≠ Path.up) (hm : (t.makeOnWay false (t.start path) front).2 = .ok l) :
    (t.makeOnWay false (t.start path) front).1.locate path = .ok (l ++ [name]) := by
  have hg := makeOnWay_grows t false (t.start path) front
  have hent := enter_of_makeOnWay hm
  generalize (t.makeOnWay false (t.start path) front).1 = t' at *
  have hstart := start_of_here hg.here path
  have hshort : name.utf8ByteSize ≤ nameLimit := hw.names name (by simp [hs])
  exact locate_of_enter hw.fault hs hup hshort (hstart ▸ hent)

/-- Where the directories can be made, no directory stands at the end and no limit is in the way, the
file is written. -/
theorem writeText_eq {t : FileTree} {path text name : String} {front : List String}
    {l : Location} (hw : t.WithinLimits path) (hs : Path.steps path = front ++ [name])
    (hup : name ≠ Path.up) (hm : (t.makeOnWay false (t.start path) front).2 = .ok l)
    (hd : (t.makeOnWay false (t.start path) front).1.node? (l ++ [name]) ≠ some .directory) :
    t.writeText path text =
      ((t.makeOnWay false (t.start path) front).1.put (l ++ [name]) (.file (.text text)), none) := by
  have hmake : t.makeDirectories (Path.parent path) = t.makeOnWay false (t.start path) front := by
    unfold makeDirectories
    rw [pathFault?_parent hw.fault, start_parent, Path.steps_parent, hs, List.dropLast_concat]
  have hg := makeOnWay_grows t false (t.start path) front
  have hloc := locate_of_makeOnWay hw hs hup hm
  generalize t.makeOnWay false (t.start path) front = made at *
  obtain ⟨t', r⟩ := made
  cases hm
  have hroom := (hw.of_here hg.here).draft
  have hnd : t'.isDirectory (l ++ [name]) = false := by
    simpa [isDirectory] using hd
  unfold writeText
  simp [hmake, hroom, hloc, hnd]

/-! ## Reading back -/

/-- A path of directories leads where they can be entered. -/
theorem locate_of_enter_steps {t : FileTree} {path : String} {l : Location}
    (hf : pathFault? path = none) (he : t.enter (t.start path) (Path.steps path) = .ok l) :
    t.locate path = .ok l := by
  rcases List.eq_nil_or_concat (Path.steps path) with hs | ⟨front, last, hs⟩
  · rw [hs] at he
    unfold locate
    simp only [hf, hs]
    exact he
  · rw [List.concat_eq_append] at hs
    by_cases hup : last = Path.up
    · unfold locate
      simpa only [hf, hs, List.getLast?_concat, if_pos hup] using he
    · rw [hs, enter_append] at he
      cases ha : t.enter (t.start path) front with
      | error e =>
        rw [ha] at he
        cases he
      | ok above =>
        rw [ha] at he
        obtain ⟨hpass, hl⟩ := enter_cons_eq_ok_iff.mp he
        rcases hpass with hu | ⟨hshort, -⟩
        · exact absurd hu hup
        · rw [follow, if_neg hup] at hl
          cases hl
          exact locate_of_enter hf hs hup hshort ha

/-- A path leads to the same place as long as no directory is lost. -/
theorem locate_of_locate {t t' : FileTree} {path : String} {l : Location}
    (hh : t'.here = t.here)
    (hd : ∀ k, t.node? k = some .directory → t'.node? k = some .directory)
    (h : t.locate path = .ok l) : t'.locate path = .ok l := by
  have hstart := start_of_here hh path
  obtain ⟨hf, he | ⟨front, last, above, hs, hup, hshort, he, rfl⟩⟩ := locate_cases h
  · exact locate_of_enter_steps hf (hstart ▸ enter_of_enter hd he)
  · exact locate_of_enter hf hs hup hshort (hstart ▸ enter_of_enter hd he)

/-- A directory that a path leads to can be entered. -/
theorem enter_of_locate {t : FileTree} {path : String} {l : Location}
    (h : t.locate path = .ok l) (hd : t.node? l = some .directory) :
    t.enter (t.start path) (Path.steps path) = .ok l := by
  obtain ⟨-, he | ⟨front, last, above, hs, hup, hshort, he, rfl⟩⟩ := locate_cases h
  · exact he
  · have hfollow : follow above last = above ++ [last] := if_neg hup
    rw [hs, enter_append, he]
    refine enter_cons_eq_ok_iff.mpr ⟨Or.inr ⟨hshort, ?_⟩, ?_⟩
    · rw [hfollow, hd]
    · rw [hfollow]
      rfl

theorem readText_eq_ok_iff {t : FileTree} {path text : String} (hp : path ≠ "")
    (hd : Path.namesDirectory path = false) :
    t.readText path = .ok text ↔
      ∃ l, t.locate path = .ok l ∧ t.node? l = some (.file (.text text)) := by
  have hempty : path.isEmpty = false := by simpa using hp
  unfold readText find
  simp only [hempty, hd]
  cases hl : t.locate path with
  | error e => simp [bind, Except.bind]
  | ok l =>
    simp only [bind, Except.bind]
    cases hn : t.node? l with
    | none => simp [hn]
    | some n =>
      cases n with
      | directory => simp [hn]
      | file content => cases content <;> simp [hn]

end RecordBean.FileTree
