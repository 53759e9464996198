import RecordBean.Drafting
import RecordBean.Proofs.FileTree

/-! # All or nothing

A source is written to a draft, which then takes the place of its file. Whatever step fails, on
whatever disk that keeps to what is taken for granted about the steps (`Disk.IsSound`), nothing is
left behind but new directories; if none fails, the file of the class is the only one that is
another than before. Writing into a tree of files directly comes to the same as going by way of a
draft, as long as a name for the draft is free, and it succeeds exactly if nothing is in the way. -/

namespace RecordBean.FileTree

/-! ## When a file can be written -/

/-- That nothing is in the way of a file: no limit, no file where the way to it goes down, and no
directory at its own place, neither before nor after those on the way have been made. -/
structure IsClear (t : FileTree) (path : String) : Prop where
  limits : t.WithinLimits path
  way : ∀ k, GoesThrough (t.start path) (Path.steps path).dropLast k →
    ∀ content, t.node? k ≠ some (.file content)
  target : t.node? (t.destination path) ≠ some .directory
  apart : ¬ GoesThrough (t.start path) (Path.steps path).dropLast (t.destination path)

section
variable {t t' : FileTree} {path text name : String} {front : List String} {l : Location}

theorem makeDirectories_parent_eq_ok
    (h : t.makeDirectories (Path.parent path) = (t', .ok l)) :
    pathFault? (Path.parent path) = none ∧
      t.makeOnWay false (t.start path) (Path.steps path).dropLast = (t', .ok l) := by
  unfold makeDirectories at h
  split at h
  · cases h
  · rename_i hf
    rw [start_parent, Path.steps_parent] at h
    exact ⟨hf, h⟩

/-- A directory that has been made for a path can be entered. -/
theorem enter_of_makeDirectories (h : t.makeDirectories (Path.parent path) = (t', .ok l)) :
    t'.enter (t'.start path) (Path.steps path).dropLast = .ok l := by
  obtain ⟨-, hway⟩ := makeDirectories_parent_eq_ok h
  have hg := makeOnWay_grows t false (t.start path) (Path.steps path).dropLast
  have hent : (t.makeOnWay false (t.start path) (Path.steps path).dropLast).1.enter
      (t.start path) (Path.steps path).dropLast = .ok l := enter_of_makeOnWay (by rw [hway])
  rw [hway] at hg hent
  rw [start_of_here hg.here]
  exact hent

/-- What has happened if a file was written. -/
theorem writeText_eq_none (h : t.writeText path text = (t', none)) :
    ∃ made l place, t.makeDirectories (Path.parent path) = (made, .ok l) ∧
      made.hasRoomForDraft (Path.parent path) = true ∧ made.locate path = .ok place ∧
      made.node? place ≠ some .directory := by
  unfold writeText at h
  simp only at h
  split at h
  · cases h
  · rename_i made l hm
    split at h
    · cases h
    · rename_i hroom
      split at h
      · cases h
      · rename_i place hplace
        split at h
        · cases h
        · rename_i hd
          exact ⟨made, l, place, hm, by simpa using hroom, hplace, by simpa [isDirectory] using hd⟩

/-- A file can be written exactly if nothing is in the way. -/
theorem exists_writeText_iff (hs : Path.steps path = front ++ [name]) (hup : name ≠ Path.up) :
    (∃ t', t.writeText path text = (t', none)) ↔ t.IsClear path := by
  have hfront : (Path.steps path).dropLast = front := by rw [hs, List.dropLast_concat]
  constructor
  · rintro ⟨t', h⟩
    obtain ⟨made, l, place, hm, hroom, hplace, hd⟩ := writeText_eq_none h
    obtain ⟨-, hway⟩ := makeDirectories_parent_eq_ok hm
    have hent := enter_of_makeDirectories hm
    rw [hfront] at hway hent
    have hg := makeOnWay_grows t false (t.start path) front
    rw [hway] at hg
    obtain ⟨hnames, hfree⟩ := exists_makeOnWay_iff.mp ⟨l, congrArg (·.2) hway⟩
    obtain rfl : place = t.destination path :=
      (locate_eq_ok hplace).trans (destination_of_here hg.here path)
    have hfault := (locate_cases hplace).1
    have hlast : name.utf8ByteSize ≤ nameLimit := by
      rw [locate_eq_child hfault hs hup hent] at hplace
      exact (child_eq_ok_iff.mp hplace).1
    refine ⟨⟨hfault, ?_, ?_⟩, hfront ▸ hfree, fun hk => hd (hg.directory hk), ?_⟩
    · intro s hmem
      rw [hs, List.mem_append, List.mem_singleton] at hmem
      rcases hmem with hmem | rfl
      · exact hnames s hmem
      · exact hlast
    · rw [← hasRoomForDraft_of_here hg.here]
      exact hroom
    · rw [hfront]
      rw [start_of_here hg.here] at hent
      exact fun hk => hd (directory_of_enter hent hk)
  · rintro ⟨hlimits, hway, htarget, hapart⟩
    rw [hfront] at hway hapart
    have hnames : ∀ s ∈ front, s.utf8ByteSize ≤ nameLimit :=
      fun s hmem => hlimits.names s (hs ▸ List.mem_append_left _ hmem)
    obtain ⟨l, hok⟩ := exists_makeOnWay_iff.mpr ⟨hnames, hway⟩
    have hg := makeOnWay_grows_down t false (t.start path) front
    have hdest : l ++ [name] = t.destination path :=
      (locate_eq_ok (locate_of_makeOnWay hlimits hs hup hok)).trans
        (destination_of_here hg.here path)
    refine ⟨_, writeText_eq hlimits hs hup hok ?_⟩
    rw [hdest]
    rcases hg.node (t.destination path) with hsame | ⟨-, -, hk⟩
    · rw [hsame]
      exact htarget
    · exact absurd hk hapart

end

/-! ## What is left of a step -/

/-- Trees in which every place but one is the same. -/
structure SameBut (l : Location) (before after : FileTree) : Prop where
  here : after.here = before.here
  node : ∀ k, k ≠ l → after.node? k = before.node? k

/-- Trees in which every place is the same. -/
structure Same (before after : FileTree) : Prop where
  here : after.here = before.here
  node : ∀ k, after.node? k = before.node? k

def HoldsFile (t : FileTree) (l : Location) : Prop := ∃ content, t.node? l = some (.file content)

section
variable {a b c : FileTree} {l : Location}

theorem Same.refl (t : FileTree) : Same t t := ⟨rfl, fun _ => rfl⟩

theorem SameBut.trans (hab : SameBut l a b) (hbc : SameBut l b c) : SameBut l a c :=
  ⟨hbc.here.trans hab.here, fun k hk => (hbc.node k hk).trans (hab.node k hk)⟩

theorem Same.sameBut (h : Same a b) (l : Location) : SameBut l a b :=
  ⟨h.here, fun k _ => h.node k⟩

theorem SameBut.same (h : SameBut l a b) (hl : b.node? l = a.node? l) : Same a b := by
  refine ⟨h.here, fun k => ?_⟩
  by_cases hk : k = l
  · rw [hk, hl]
  · exact h.node k hk

theorem Same.holdsFile (h : Same a b) (hl : a.HoldsFile l) : b.HoldsFile l := by
  obtain ⟨content, hc⟩ := hl
  exact ⟨content, (h.node l).trans hc⟩

theorem HoldsFile.not_directory (h : a.HoldsFile l) : a.node? l ≠ some .directory := by
  obtain ⟨content, hc⟩ := h
  rw [hc]
  simp

theorem Grows.same {places : Location → Prop} (h : Grows places a b) (hs : Same b c) :
    Grows places a c := by
  refine ⟨hs.here.trans h.here, fun k => ?_⟩
  rw [hs.node k]
  exact h.node k

theorem sameBut_put {n : FileNode} (hl : a.node? l ≠ some .directory) :
    SameBut l a (a.put l n) := by
  refine ⟨rfl, fun k hk => ?_⟩
  rw [node?_put hl, if_neg (Ne.symm hk)]

end

/-- A tree in which a file at a path has been written, and directories on the way to it. -/
structure Replaces (before after : FileTree) (path text : String) : Prop where
  here : after.here = before.here
  target : before.node? (before.destination path) ≠ some .directory
  written : after.node? (before.destination path) = some (.file (.text text))
  read : after.readText path = .ok text
  others : ∀ k, k ≠ before.destination path → after.node? k = before.node? k ∨
    before.node? k = none ∧ after.node? k = some .directory ∧ OnWayAbove before path k

/-- Writing into a grown tree replaces the file. -/
theorem replaces_of_grows {t t' made : FileTree} {path text : String} (hne : path ≠ "")
    (hnd : Path.namesDirectory path = false) (hg : Grows (OnWayAbove t path) t made)
    (hd : made.node? (t.destination path) ≠ some .directory)
    (hsame : SameBut (t.destination path) made t')
    (hw : t'.node? (t.destination path) = some (.file (.text text)))
    (hplace : t'.locate path = .ok (t.destination path)) : Replaces t t' path text where
  here := hsame.here.trans hg.here
  target hk := hd (hg.directory hk)
  written := hw
  read := (readText_eq_ok_iff hne hnd).mpr ⟨_, hplace, hw⟩
  others k hk := by
    rw [hsame.node k hk]
    exact hg.node k

end RecordBean.FileTree

namespace RecordBean.Disk
open RecordBean.FileTree

/-! ## Writing by way of a draft -/

/-- What is taken for granted about the steps of a disk. Making directories adds some on the way. A
draft is a file where there was nothing. It is the only file that filling and discarding it touch.
Publishing moves it to where the path leads, unless that is a directory, or does nothing. -/
structure IsSound (disk : Disk) : Prop where
  directories : ∀ t directory, Grows (OnWay (t.start directory) (Path.steps directory)) t
    (disk.makeDirectories t directory).1
  unopened : ∀ {t t' directory e}, disk.openDraft t directory = (t', .error e) → Same t t'
  opened : ∀ {t t' directory l}, disk.openDraft t directory = (t', .ok l) →
    t.node? l = none ∧ SameBut l t t' ∧ t'.HoldsFile l
  filling : ∀ {t t' l text r}, t.HoldsFile l → disk.fill t l text = (t', r) →
    SameBut l t t' ∧ t'.HoldsFile l
  filled : ∀ {t t' l text}, t.HoldsFile l → disk.fill t l text = (t', none) →
    t'.node? l = some (.file (.text text))
  unpublished : ∀ {t t' l path e}, disk.publish t l path = (t', some e) → Same t t'
  published : ∀ {t t' l path}, t.HoldsFile l → disk.publish t l path = (t', none) →
    ∃ place, t.locate path = .ok place ∧ t.node? place ≠ some .directory ∧ t'.here = t.here ∧
      ∀ k, t'.node? k = if k = place then t.node? l else if k = l then none else t.node? k
  discarded : ∀ {t l}, t.HoldsFile l →
    SameBut l t (disk.discard t l) ∧ (disk.discard t l).node? l = none

section
variable {disk : Disk} {t made opened t' : FileTree} {path text : String} {l : Location}

/-- A draft that is thrown away leaves nothing behind. -/
theorem IsSound.same_discard (h : disk.IsSound) (hfresh : made.node? l = none)
    (hsame : SameBut l made t') (hl : t'.HoldsFile l) : Same made (disk.discard t' l) := by
  obtain ⟨hdiscard, hgone⟩ := h.discarded hl
  exact (hsame.trans hdiscard).same (hgone.trans hfresh.symm)

/-- A draft that is published has left its place and is the file of the path. -/
theorem IsSound.replaces_publish (h : disk.IsSound) (hne : path ≠ "")
    (hnd : Path.namesDirectory path = false) (hg : Grows (OnWayAbove t path) t made)
    (hfresh : made.node? l = none) (hsame : SameBut l made opened)
    (hl : opened.node? l = some (.file (.text text)))
    (hp : disk.publish opened l path = (t', none)) : Replaces t t' path text := by
  have hfile : opened.HoldsFile l := ⟨_, hl⟩
  obtain ⟨place, hplace, hd, hhere, hnode⟩ := h.published hfile hp
  obtain rfl : place = t.destination path :=
    (locate_eq_ok hplace).trans (destination_of_here (hsame.here.trans hg.here) path)
  have hkept : ∀ k, opened.node? k = some .directory → t'.node? k = some .directory := by
    intro k hk
    have hkl : k ≠ l := fun he => hfile.not_directory (he ▸ hk)
    have hkp : k ≠ t.destination path := fun he => hd (he ▸ hk)
    rw [hnode, if_neg hkp, if_neg hkl, hk]
  have hothers : SameBut (t.destination path) made t' := by
    refine ⟨hhere.trans hsame.here, fun k hk => ?_⟩
    rw [hnode, if_neg hk]
    split
    · rename_i hkl
      rw [hkl, hfresh]
    · rename_i hkl
      exact hsame.node k hkl
  refine replaces_of_grows hne hnd hg ?_ hothers ?_ (locate_of_locate hhere hkept hplace)
  · by_cases he : t.destination path = l
    · rw [he, hfresh]
      simp
    · rw [← hsame.node _ he]
      exact hd
  · rw [hnode, if_pos rfl, hl]

end

/-- Whichever step fails, only new directories are left. If none does, the file is written. -/
theorem IsSound.writeText_cases {disk : Disk} (h : disk.IsSound) (t : FileTree)
    {path text : String} (hne : path ≠ "") (hnd : Path.namesDirectory path = false) :
    (∃ t' e, disk.writeText t path text = (t', some e) ∧ Grows (OnWayAbove t path) t t') ∨
    (∃ t', disk.writeText t path text = (t', none) ∧ Replaces t t' path text) := by
  have hg := h.directories t (Path.parent path)
  rw [start_parent, Path.steps_parent] at hg
  unfold writeText
  split
  · rename_i made e hm
    rw [hm] at hg
    exact Or.inl ⟨made, e, rfl, hg⟩
  · rename_i made hm
    rw [hm] at hg
    split
    · rename_i t' e ho
      exact Or.inl ⟨t', e, rfl, hg.same (h.unopened ho)⟩
    · rename_i opened draft ho
      obtain ⟨hfresh, hsame, hfile⟩ := h.opened ho
      split
      · rename_i filled e hf
        obtain ⟨hsame', hfile'⟩ := h.filling hfile hf
        exact Or.inl ⟨_, e, rfl, hg.same (h.same_discard hfresh (hsame.trans hsame') hfile')⟩
      · rename_i filled hf
        obtain ⟨hsame', hfile'⟩ := h.filling hfile hf
        have hdraft : SameBut draft made filled := hsame.trans hsame'
        split
        · rename_i t' e hp
          have hsame'' := h.unpublished hp
          exact Or.inl ⟨_, e, rfl, hg.same (h.same_discard hfresh
            (hdraft.trans (hsame''.sameBut draft)) (hsame''.holdsFile hfile'))⟩
        · rename_i t' hp
          exact Or.inr ⟨t', rfl,
            h.replaces_publish hne hnd hg hfresh hdraft (h.filled hfile hf) hp⟩

end RecordBean.Disk

namespace RecordBean.FileTree

/-! ## A tree as a disk -/

section
variable {t t' made : FileTree} {names : List String} {path text name directory : String}
  {front : List String} {l : Location}

theorem node?_remove (h : t.HoldsFile l) (k : Location) :
    (t.remove l).node? k = if k = l then none else t.node? k := by
  have hl : l.isPrefixOf t.here = false := by
    have hd := h.not_directory
    unfold node? at hd
    by_contra hp
    rw [if_pos (by simpa using hp)] at hd
    exact hd rfl
  unfold node? remove
  by_cases hk : k = l
  · rw [if_pos hk, hk, if_neg (by simp [hl])]
    simp
  · rw [if_neg hk]
    simp [Std.TreeMap.getElem?_erase, Ne.symm hk]

theorem openDraft_eq_ok (h : t.openDraft names directory = (t', .ok l)) :
    t.node? l = none ∧ t' = t.put l (.file (.text "")) := by
  unfold openDraft at h
  split at h
  · cases h
  · split at h
    · cases h
    · split at h
      · cases h
      · rename_i name hname
        cases h
        exact ⟨by simpa using List.find?_some hname, rfl⟩

theorem openDraft_eq_error {e : IoFailure} (h : t.openDraft names directory = (t', .error e)) :
    t' = t := by
  unfold openDraft at h
  split at h
  · cases h
    rfl
  · split at h
    · cases h
      rfl
    · split at h
      · cases h
        rfl
      · cases h

/-- What publishing a draft comes to. -/
theorem publish_cases (t : FileTree) (l : Location) (path : String) :
    (∃ e, t.publish l path = (t, some e)) ∨
    ∃ place n, t.locate path = .ok place ∧ t.node? l = some n ∧
      t.node? place ≠ some .directory ∧ t.publish l path = ((t.remove l).put place n, none) := by
  unfold publish
  split
  · exact Or.inl ⟨_, rfl⟩
  · exact Or.inl ⟨_, rfl⟩
  · rename_i place n hplace hn
    split
    · exact Or.inl ⟨_, rfl⟩
    · rename_i hd
      exact Or.inr ⟨place, n, hplace, hn, by simpa [isDirectory] using hd, rfl⟩

theorem node?_put_remove {place : Location} {n : FileNode} (hl : t.HoldsFile l)
    (hd : t.node? place ≠ some .directory) (k : Location) :
    ((t.remove l).put place n).node? k =
      if k = place then some n else if k = l then none else t.node? k := by
  have hfree : (t.remove l).node? place ≠ some .directory := by
    rw [node?_remove hl]
    split
    · simp
    · exact hd
  rw [node?_put hfree, node?_remove hl]
  simp only [eq_comm]

/-- A tree keeps to what is taken for granted about disks. -/
theorem isSound_disk (names : List String) : (disk names).IsSound where
  directories t directory := by
    have hg := makeDirectories_grows t directory
    unfold disk
    simp only
    split <;> rename_i hm <;> rw [hm] at hg <;> exact hg
  unopened h := by
    rw [openDraft_eq_error h]
    exact Same.refl _
  opened {t t' directory l} h := by
    obtain ⟨hfresh, rfl⟩ := openDraft_eq_ok h
    have hd : t.node? l ≠ some .directory := by simp [hfresh]
    exact ⟨hfresh, sameBut_put hd, _, by rw [node?_put hd, if_pos rfl]⟩
  filling hl h := by
    cases h
    exact ⟨sameBut_put hl.not_directory, _, by rw [node?_put hl.not_directory, if_pos rfl]⟩
  filled hl h := by
    cases h
    rw [node?_put hl.not_directory, if_pos rfl]
  unpublished {t t' l path e} h := by
    rcases publish_cases t l path with ⟨e', he⟩ | ⟨place, n, -, -, -, he⟩
    · cases he.symm.trans h
      exact Same.refl _
    · cases he.symm.trans h
  published {t t' l path} hl h := by
    rcases publish_cases t l path with ⟨e', he⟩ | ⟨place, n, hplace, hn, hd, he⟩
    · cases he.symm.trans h
    · cases he.symm.trans h
      refine ⟨place, hplace, hd, rfl, fun k => ?_⟩
      rw [node?_put_remove hl hd, hn]
  discarded {t l} hl := by
    refine ⟨⟨rfl, fun k hk => ?_⟩, ?_⟩
    · exact (node?_remove hl k).trans (if_neg hk)
    · exact (node?_remove hl l).trans (if_pos rfl)

/-- The draft of a file lies in the directory that has been made for it. -/
theorem exists_openDraft_eq (hm : t.makeDirectories (Path.parent path) = (made, .ok l))
    (hroom : made.hasRoomForDraft (Path.parent path) = true)
    (hfree : ∃ n ∈ names, made.node? (l ++ [n]) = none) :
    ∃ draft, made.node? draft = none ∧ made.openDraft names (Path.parent path) =
      (made.put draft (.file (.text "")), .ok draft) := by
  have hdirectory : made.locate (Path.parent path) = .ok l := by
    refine locate_of_enter_steps (makeDirectories_parent_eq_ok hm).1 ?_
    rw [start_parent, Path.steps_parent]
    exact enter_of_makeDirectories hm
  obtain ⟨n, hn, hnone⟩ := hfree
  cases hfind : names.find? fun n => (made.node? (l ++ [n])).isNone with
  | none =>
    have := List.find?_eq_none.mp hfind n hn
    simp [hnone] at this
  | some n' =>
    refine ⟨l ++ [n'], by simpa using List.find?_some hfind, ?_⟩
    unfold openDraft
    simp [hroom, hdirectory, hfind]

/-- A draft is on no way to its file. -/
theorem locate_of_sameBut {draft : Location} (hs : Path.steps path = front ++ [name])
    (hup : name ≠ Path.up) (he : made.enter (made.start path) front = .ok l)
    (hfresh : made.node? draft = none) (hsame : SameBut draft made t') :
    t'.locate path = made.locate path := by
  cases hf : pathFault? path with
  | some e =>
    unfold locate
    simp only [hf]
  | none =>
    have hkept : ∀ k, made.node? k = some .directory → t'.node? k = some .directory := by
      intro k hk
      have hne : k ≠ draft := by
        rintro rfl
        rw [hfresh] at hk
        cases hk
      rw [hsame.node k hne, hk]
    have he' : t'.enter (t'.start path) front = .ok l :=
      start_of_here hsame.here path ▸ enter_of_enter hkept he
    rw [locate_eq_child hf hs hup he, locate_eq_child hf hs hup he']

/-- A draft that is published is as good as a file that was written in place. -/
theorem same_put {draft place : Location} {n : FileNode} (hfresh : made.node? draft = none)
    (hsame : SameBut draft made t') (hfile : t'.HoldsFile draft)
    (hd : made.node? place ≠ some .directory) (hd' : t'.node? place ≠ some .directory) :
    Same (made.put place n) ((t'.remove draft).put place n) := by
  refine ⟨hsame.here, fun k => ?_⟩
  rw [node?_put_remove hfile hd', node?_put hd]
  by_cases hk : k = place
  · rw [if_pos hk, if_pos hk.symm]
  · rw [if_neg hk, if_neg (Ne.symm hk)]
    by_cases hkd : k = draft
    · rw [if_pos hkd, hkd, hfresh]
    · rw [if_neg hkd, hsame.node k hkd]

/-- The place of a full draft is nowhere where it would be in the way of anything. -/
theorem isDirectory_of_sameBut {draft : Location} {content : Content}
    (hfresh : made.node? draft = none) (hsame : SameBut draft made t')
    (hfile : t'.node? draft = some (.file content)) (place : Location) :
    t'.isDirectory place = made.isDirectory place := by
  unfold isDirectory
  by_cases hk : place = draft
  · rw [hk, hfile, hfresh]
    rfl
  · rw [hsame.node place hk]

/-- A full draft is published where the file would be written in place. -/
theorem publish_of_sameBut {draft place : Location} {content : Content}
    (hfresh : made.node? draft = none) (hsame : SameBut draft made t')
    (hfile : t'.node? draft = some (.file content)) (hplace : t'.locate path = .ok place) :
    t'.publish draft path =
      if made.isDirectory place then (t', some .isADirectory)
      else ((t'.remove draft).put place (.file content), none) := by
  unfold publish
  simp only [hplace, hfile, isDirectory_of_sameBut hfresh hsame hfile]

/-- Whether one of some names is free in the directory that is made for a path. -/
def HasFreeName (names : List String) (t : FileTree) (path : String) : Prop :=
  ∀ made l, t.makeDirectories (Path.parent path) = (made, .ok l) →
    ∃ n ∈ names, made.node? (l ++ [n]) = none

/-- Going by way of a draft comes to the same, as long as a name for it is free. -/
theorem writeText_disk (text : String) (hs : Path.steps path = front ++ [name])
    (hup : name ≠ Path.up) (hfree : HasFreeName names t path) :
    ((disk names).writeText t path text).2 = (t.writeText path text).2 ∧
      Same (t.writeText path text).1 ((disk names).writeText t path text).1 := by
  unfold Disk.writeText FileTree.writeText disk
  simp only
  cases hm : t.makeDirectories (Path.parent path) with
  | mk made r =>
    cases r with
    | error e => exact ⟨rfl, Same.refl _⟩
    | ok l =>
      simp only
      cases hroom : made.hasRoomForDraft (Path.parent path) with
      | false =>
        have hopen : made.openDraft names (Path.parent path) = (made, .error .nameTooLong) := by
          unfold openDraft
          simp [hroom]
        rw [hopen]
        exact ⟨rfl, Same.refl _⟩
      | true =>
        obtain ⟨draft, hfresh, hopen⟩ := exists_openDraft_eq hm hroom (hfree made l hm)
        have hfilled : (made.put draft (.file (.text ""))).HoldsFile draft :=
          ⟨_, by rw [node?_put (by simp [hfresh]), if_pos rfl]⟩
        have hfile : ((made.put draft (.file (.text ""))).put draft (.file (.text text))).node?
            draft = some (.file (.text text)) := by
          rw [node?_put hfilled.not_directory, if_pos rfl]
        have hsame := (sameBut_put (n := .file (.text "")) (by simp [hfresh])).trans
          (sameBut_put (n := .file (.text text)) hfilled.not_directory)
        rw [hopen]
        simp only [Bool.not_true, Bool.false_eq_true, if_false]
        generalize (made.put draft (.file (.text ""))).put draft (.file (.text text)) = filled at *
        have hlocate : filled.locate path = made.locate path := by
          have hent := enter_of_makeDirectories hm
          rw [hs, List.dropLast_concat] at hent
          exact locate_of_sameBut hs hup hent hfresh hsame
        cases hplace : made.locate path with
        | error e =>
          have herror : filled.publish draft path = (filled, some e) := by
            unfold publish
            rw [hlocate, hplace]
          rw [herror]
          exact ⟨rfl, (isSound_disk names).same_discard hfresh hsame ⟨_, hfile⟩⟩
        | ok place =>
          rw [publish_of_sameBut hfresh hsame hfile (hlocate.trans hplace)]
          by_cases hd : made.isDirectory place = true
          · simp only [if_pos hd]
            exact ⟨trivial, (isSound_disk names).same_discard hfresh hsame ⟨_, hfile⟩⟩
          · have hd' : ¬ filled.isDirectory place = true := by
              rwa [isDirectory_of_sameBut hfresh hsame hfile place]
            simp only [if_neg hd]
            rw [isDirectory, beq_iff_eq] at hd hd'
            exact ⟨trivial, same_put hfresh hsame ⟨_, hfile⟩ hd hd'⟩

end

/-! ## Deliveries -/

/-- Where the source of a delivery belongs. -/
def pathOf (root : String) (d : Delivery) : String := Path.ofClass root d.package d.className

/-- Every delivery fails in writing its file and leaves only new directories behind, or the file is
the only one that is another than before. -/
def IsAllOrNothing (root : String) (sink : Sink FileTree) : Prop :=
  ∀ (d : Delivery) (t : FileTree),
    (∃ t' e, sink.deliver d t = (.error (.io (pathOf root d) e), t') ∧
      Grows (OnWayAbove t (pathOf root d)) t t') ∨
    (∃ t', sink.deliver d t = (.ok [.beanWritten (pathOf root d)], t') ∧
      Replaces t t' (pathOf root d) d.source)

theorem isAllOrNothing_sinkBy {write : FileTree → String → String → FileTree × Option IoFailure}
    (h : ∀ t path text, path ≠ "" → Path.namesDirectory path = false →
      (∃ t' e, write t path text = (t', some e) ∧ Grows (OnWayAbove t path) t t') ∨
      (∃ t', write t path text = (t', none) ∧ Replaces t t' path text)) (root : String) :
    IsAllOrNothing root (sinkBy write root) := by
  intro d t
  have hdeliver := deliver_sinkBy write root d t
  have hwrite := h t (pathOf root d) d.source (Path.ofClass_ne_empty root d.package d.className)
    (Path.namesDirectory_ofClass root d.package d.className)
  unfold pathOf at *
  rcases hwrite with ⟨t', e, he, hg⟩ | ⟨t', he, hr⟩
  · rw [he] at hdeliver
    exact Or.inl ⟨t', e, hdeliver, hg⟩
  · rw [he] at hdeliver
    exact Or.inr ⟨t', hdeliver, hr⟩

theorem isAllOrNothing_sink (root : String) : IsAllOrNothing root (sink root) := by
  refine isAllOrNothing_sinkBy (fun t path text hne hnd => ?_) root
  rcases writeText_cases t path text with ⟨t', e, he, hg⟩ | ⟨made, he, hg, hplace, hd⟩
  · exact Or.inl ⟨t', e, he, hg⟩
  · have hw : (made.put (t.destination path) (.file (.text text))).node? (t.destination path) =
        some (.file (.text text)) := by
      rw [node?_put hd, if_pos rfl]
    have hkept : ∀ k, made.node? k = some .directory →
        (made.put (t.destination path) (.file (.text text))).node? k = some .directory := by
      intro k hk
      rw [(sameBut_put hd).node k fun he => hd (he ▸ hk), hk]
    exact Or.inr ⟨_, he, replaces_of_grows hne hnd hg hd (sameBut_put hd) hw
      (locate_of_locate (t := made) rfl hkept hplace)⟩

/-- The path of a delivery ends in a file name. -/
theorem exists_steps_pathOf (root : String) (d : Delivery) :
    ∃ front name, Path.steps (pathOf root d) = front ++ [name] ∧ name ≠ Path.up := by
  obtain ⟨front, name, hs⟩ := Path.exists_steps_ofClass root d.package d.className
  refine ⟨front, name ++ ".java", hs, fun he => ?_⟩
  have := congrArg (·.toList.getLast?) he
  simp [Path.up] at this

/-- A delivery succeeds exactly if nothing is in the way of its file. -/
theorem exists_deliver_iff (root : String) (d : Delivery) (t : FileTree) :
    (∃ events t', (sink root).deliver d t = (.ok events, t')) ↔ t.IsClear (pathOf root d) := by
  obtain ⟨front, name, hs, hup⟩ := exists_steps_pathOf root d
  rw [← exists_writeText_iff hs hup, sink, deliver_sinkBy]
  unfold pathOf
  cases t.writeText (Path.ofClass root d.package d.className) d.source with
  | mk t' failure =>
    cases failure with
    | none => exact iff_of_true ⟨_, t', rfl⟩ ⟨t', rfl⟩
    | some e => exact iff_of_false (by simp) (by simp)

/-- A delivery by way of a draft comes to the same, as long as a name for it is free. -/
theorem deliver_disk {root : String} {names : List String} {d : Delivery} {t : FileTree}
    (hfree : HasFreeName names t (pathOf root d)) :
    ((sinkBy (disk names).writeText root).deliver d t).1 = ((sink root).deliver d t).1 ∧
      Same ((sink root).deliver d t).2 ((sinkBy (disk names).writeText root).deliver d t).2 := by
  obtain ⟨front, name, hs, hup⟩ := exists_steps_pathOf root d
  obtain ⟨hfailure, hsame⟩ := writeText_disk d.source hs hup hfree
  rw [sink, deliver_sinkBy, deliver_sinkBy]
  unfold pathOf at hfailure hsame
  generalize (disk names).writeText t (Path.ofClass root d.package d.className) d.source = drafted
    at *
  generalize t.writeText (Path.ofClass root d.package d.className) d.source = written at *
  obtain ⟨drafted, failure⟩ := drafted
  obtain ⟨written, failure'⟩ := written
  obtain rfl : failure = failure' := hfailure
  cases failure with
  | none => exact ⟨rfl, hsame⟩
  | some e => exact ⟨rfl, hsame⟩

/-- Sources are delivered whole or not at all, into a tree of files as well as by way of drafts on
every disk that keeps to what is taken for granted about it. Into a tree, they are delivered exactly
if nothing is in the way, and drafts with a free name change nothing about that. -/
theorem delivered_whole_or_not (root : String) :
    IsAllOrNothing root (sink root) ∧
    (∀ disk : Disk, disk.IsSound → IsAllOrNothing root (sinkBy disk.writeText root)) ∧
    ∀ d t, ((∃ events t', (sink root).deliver d t = (.ok events, t')) ↔
        t.IsClear (pathOf root d)) ∧
      ∀ names, HasFreeName names t (pathOf root d) →
        ((sinkBy (disk names).writeText root).deliver d t).1 = ((sink root).deliver d t).1 ∧
        Same ((sink root).deliver d t).2 ((sinkBy (disk names).writeText root).deliver d t).2 := by
  refine ⟨isAllOrNothing_sink root, fun disk h => ?_, fun d t =>
    ⟨exists_deliver_iff root d t, fun names hfree => deliver_disk hfree⟩⟩
  exact isAllOrNothing_sinkBy (fun t _ _ hne hnd => h.writeText_cases t hne hnd) root

/-- A directory for beans with a file in it, and a note beside it. -/
def cupboard : FileTree :=
  (((FileTree.empty ["home"]).put ["home", "out"] .directory).put ["home", "out", "CupBean.java"]
    (.file (.text "old"))).put ["home", "notes.txt"] (.file (.text "wash up"))

/-- A directory for beans, with a directory where the file of the bean belongs. -/
def occupied : FileTree :=
  ((FileTree.empty ["home"]).put ["home", "out"] .directory).put
    ["home", "out", "CupBean.java"] .directory

def cup : Delivery := ⟨none, "CupBean", "final class CupBean \x7b\x7d\n"⟩

/-- On a tree as a disk, a draft takes the place of the old file. Where a directory stands instead,
the draft is gone again. -/
theorem cup_whole_or_not :
    (disk [".tmpq3XyZ9"]).IsSound ∧ HasFreeName [".tmpq3XyZ9"] cupboard "out/CupBean.java" ∧
    (∃ t', (sinkBy (disk [".tmpq3XyZ9"]).writeText "out").deliver cup cupboard =
      (.ok [.beanWritten "out/CupBean.java"], t') ∧
      Replaces cupboard t' "out/CupBean.java" cup.source ∧
      Same ((sink "out").deliver cup cupboard).2 t') ∧
    ∃ t', (sinkBy (disk [".tmpq3XyZ9"]).writeText "out").deliver cup occupied =
      (.error (.io "out/CupBean.java" .isADirectory), t') ∧
      Grows (OnWayAbove occupied "out/CupBean.java") occupied t' := by
  have hpath : pathOf "out" cup = "out/CupBean.java" := by decide
  have hsound := isSound_disk [".tmpq3XyZ9"]
  obtain ⟨-, hdisks, hdelivery⟩ := delivered_whole_or_not "out"
  have hall := hdisks _ hsound
  have hfree : HasFreeName [".tmpq3XyZ9"] cupboard "out/CupBean.java" := by
    intro made l hm
    have hmade : cupboard.makeDirectories "out" = (cupboard, .ok ["home", "out"]) := rfl
    have hparent : Path.parent "out/CupBean.java" = "out" := by decide
    rw [hparent, hmade] at hm
    cases hm
    exact ⟨_, List.mem_cons_self, by decide⟩
  have hok : ((sinkBy (disk [".tmpq3XyZ9"]).writeText "out").deliver cup cupboard).1 =
      .ok [.beanWritten "out/CupBean.java"] := by rfl
  have herror : ((sinkBy (disk [".tmpq3XyZ9"]).writeText "out").deliver cup occupied).1 =
      .error (.io "out/CupBean.java" .isADirectory) := by rfl
  refine ⟨hsound, hfree, ?_, ?_⟩
  · have hsame := ((hdelivery cup cupboard).2 [".tmpq3XyZ9"] (hpath ▸ hfree)).2
    rcases hall cup cupboard with ⟨t', e, he, -⟩ | ⟨t', he, hr⟩
    · rw [he] at hok
      cases hok
    · rw [he] at hsame
      rw [hpath] at he hr
      exact ⟨t', he, hr, hsame⟩
  · rcases hall cup occupied with ⟨t', e, he, hg⟩ | ⟨t', he, -⟩
    · rw [he] at herror
      rw [hpath] at hg
      exact ⟨t', Prod.ext (he ▸ herror) (by rw [he]), hg⟩
    · rw [he] at herror
      cases herror

end RecordBean.FileTree
