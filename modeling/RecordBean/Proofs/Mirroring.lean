import RecordBean.Emission
import RecordBean.Proofs.FileTree
import RecordBean.Proofs.QualifiedName

/-! # Files and memory

The same deliveries go into files below a fresh directory and into an empty store. As long as
packages and classes are named by identifiers, the two stay in step: no directory has the name of a
class file, so a file never stands where a directory is wanted and no directory where a file is, and
a file is replaced exactly when the source in the store is. One delivery makes the directories of
its package, which leaves the simulation as it is (`Simulates.grow`), and puts one file
(`Simulates.put`). -/

namespace RecordBean.Mirroring
open RecordBean.FileTree RecordBean.Path RecordBean.Name

/-! ## Names -/

/-- Whether a package, if there is one, and a class are named by identifiers. -/
structure IsNamed (package : Option String) (className : String) : Prop where
  parts : ∀ part ∈ partsOf package, isIdentifier part = true
  simple : isIdentifier className = true

theorem notMem_of_isIdentifier {name : String} (h : isIdentifier name = true) {c : Char}
    (hc : Text.isWordChar c = false) : c ∉ name.toList := (isWord_of_isIdentifier h).notMem hc

theorem isStep_of_isIdentifier {name : String} (h : isIdentifier name = true) :
    isStep name = true := by
  have hne : name ≠ "" := by
    rintro rfl
    cases h
  have hdot : name ≠ "." := by
    rintro rfl
    cases h
  simp [isStep, hne, hdot]

/-- The name of a class file is no identifier. -/
theorem isIdentifier_fileName (className : String) :
    isIdentifier (className ++ ".java") = false := by
  rw [Bool.eq_false_iff]
  intro h
  have hdot : '.' ∉ (className ++ ".java").toList := notMem_of_isIdentifier h (by decide)
  rw [String.toList_append, List.mem_append, not_or] at hdot
  exact hdot.2 (by decide)

theorem IsNamed.notMem {package : Option String} {className : String}
    (h : IsNamed package className) : '/' ∉ className.toList :=
  notMem_of_isIdentifier h.simple (by decide)

theorem IsNamed.isRelative {package : Option String} {className : String}
    (h : IsNamed package className) : IsRelative package := fun part hp =>
  isAbsolute_of_notMem (notMem_of_isIdentifier (h.parts part hp) (by decide))

theorem flatMap_steps {parts : List String} (h : ∀ part ∈ parts, isIdentifier part = true) :
    parts.flatMap steps = parts := by
  induction parts with
  | nil => rfl
  | cons part parts ih =>
    obtain ⟨hfirst, hrest⟩ := List.forall_mem_cons.mp h
    have hslash : '/' ∉ part.toList := notMem_of_isIdentifier hfirst (by decide)
    rw [List.flatMap_cons, steps_of_notMem hslash (isStep_of_isIdentifier hfirst), ih hrest]
    rfl

/-- Every part of the package is a directory on the way to the file. -/
theorem IsNamed.placeOf_eq {package : Option String} {className : String}
    (h : IsNamed package className) :
    placeOf package className = partsOf package ++ [className ++ ".java"] := by
  unfold placeOf
  rw [flatMap_steps h.parts]

theorem partsOf_eq_iff {p q : Option String} : partsOf p = partsOf q ↔ p = q := by
  refine ⟨fun h => ?_, congrArg partsOf⟩
  have hdot : ".".toList = ['.'] := rfl
  cases p with
  | none =>
    cases q with
    | none => rfl
    | some q => exact absurd h.symm (split_ne_nil '.' q)
  | some p =>
    cases q with
    | none => exact absurd h (split_ne_nil '.' p)
    | some q =>
      have hpieces : split '.' p = split '.' q := h
      rw [← joined_split hdot p, ← joined_split hdot q, hpieces]

/-- Below the root, different pairs have different places. -/
theorem placeOf_eq_iff {p q : Option String} {c e : String} (hp : IsNamed p c)
    (hq : IsNamed q e) : placeOf p c = placeOf q e ↔ p = q ∧ c = e := by
  rw [hp.placeOf_eq, hq.placeOf_eq, ← partsOf_eq_iff,
    ← String.append_left_inj ".java"]
  constructor
  · intro h
    obtain ⟨hparts, hfile⟩ := List.append_inj' h rfl
    exact ⟨hparts, List.singleton_injective hfile⟩
  · rintro ⟨hparts, hfile⟩
    rw [hparts, hfile]

theorem ofClass_eq_iff {root : String} {p q : Option String} {c e : String} (hp : IsNamed p c)
    (hq : IsNamed q e) : ofClass root p c = ofClass root q e ↔ p = q ∧ c = e := by
  refine ⟨fun h => ?_, by rintro ⟨rfl, rfl⟩; rfl⟩
  have hsteps := congrArg steps h
  rw [steps_ofClass hp.notMem hp.isRelative, steps_ofClass hq.notMem hq.isRelative] at hsteps
  exact (placeOf_eq_iff hp hq).mp (List.append_cancel_left hsteps)

/-- In the store, different pairs have different keys. -/
theorem key_eq_iff {p q : Option String} {c e : String} (hp : IsNamed p c) (hq : IsNamed q e) :
    qualify p c = qualify q e ↔ p = q ∧ c = e :=
  qualify_eq_iff (notMem_of_isIdentifier hp.simple (by decide))
    (notMem_of_isIdentifier hq.simple (by decide))

/-! ## The simulation -/

/-- Hand deliveries over one after another; a refusal ends it. -/
def deliverAll {σ : Type} (sink : Sink σ) : List Delivery → σ → Except EmitError σ
  | [], state => .ok state
  | d :: rest, state =>
    match sink.deliver d state with
    | (.error e, _) => .error e
    | (.ok _, state) => deliverAll sink rest state

/-- What holds between a tree and a store after some deliveries; `base` is the tree before the
first. -/
structure Simulates (root : String) (base t : FileTree) (s : Store) (done : List Delivery) :
    Prop where
  here : t.here = base.here
  entered : t.enter (t.start root) (steps root) = .ok (base.destination root)
  /-- The files below the root are those of the sources. -/
  file_iff : ∀ k content, t.node? (base.destination root ++ k) = some (.file content) ↔
    ∃ package className text, IsNamed package className ∧ k = placeOf package className ∧
      content = .text text ∧ s.get? (qualify package className) = some text
  /-- The directories below the root are named by identifiers, so no class file is one. -/
  directories : ∀ k, t.node? (base.destination root ++ k) = some .directory →
    ∀ name ∈ k, isIdentifier name = true
  stored : ∀ key, s.get? key ≠ none ↔ ∃ d ∈ done, d.qualifiedName = key
  located : ∀ d ∈ done, t.locate (ofClass root d.package d.className) =
    .ok (base.destination root ++ placeOf d.package d.className)

section Simulates
variable {root : String} {base t t' : FileTree} {s : Store} {done : List Delivery}

/-- New directories that are named by identifiers change nothing. -/
theorem Simulates.grow (h : Simulates root base t s done) {places : Location → Prop}
    (hg : Grows places t t')
    (hp : ∀ k, places k → ∃ names, k = base.destination root ++ names ∧
      ∀ name ∈ names, isIdentifier name = true) : Simulates root base t' s done where
  here := hg.here.trans h.here
  entered := by
    rw [start_of_here hg.here]
    exact enter_of_enter (fun _ => hg.directory) h.entered
  file_iff k content := hg.file_iff.trans (h.file_iff k content)
  directories k hk := by
    rcases hg.node (base.destination root ++ k) with he | ⟨-, -, hplace⟩
    · exact h.directories k (he ▸ hk)
    · obtain ⟨names, hnames, hid⟩ := hp _ hplace
      rw [List.append_cancel_left hnames]
      exact hid
  stored := h.stored
  located d hd := locate_of_locate hg.here (fun _ => hg.directory) (h.located d hd)

/-- No directory has the place of a class file. -/
theorem Simulates.not_directory (h : Simulates root base t s done) (package : Option String)
    (className : String) :
    t.node? (base.destination root ++ placeOf package className) ≠ some .directory := by
  intro hd
  have hid := h.directories _ hd (className ++ ".java") (by simp [placeOf])
  rw [isIdentifier_fileName] at hid
  cases hid

theorem get?_add (s : Store) (d : Delivery) (key : String) :
    (s.add d).get? key = if d.qualifiedName = key then some d.source else s.get? key :=
  Store.get?_put s d.qualifiedName d.source key

/-- A class with another place has another key, and its source stays. -/
theorem get?_add_of_placeOf_ne (s : Store) {d : Delivery} {package : Option String}
    {className : String} (hd : IsNamed d.package d.className) (hn : IsNamed package className)
    (hne : placeOf d.package d.className ≠ placeOf package className) :
    (s.add d).get? (qualify package className) = s.get? (qualify package className) := by
  have hkey : d.qualifiedName ≠ qualify package className := fun he =>
    hne ((placeOf_eq_iff hd hn).mpr ((key_eq_iff hd hn).mp he))
  rw [get?_add, if_neg hkey]

/-- The file of a class that is put is the one whose source is kept, and all others stay. -/
theorem Simulates.file_iff_put (h : Simulates root base t s done) {d : Delivery}
    (hn : IsNamed d.package d.className) (k : Location) (content : Content) :
    (t.put (base.destination root ++ placeOf d.package d.className) (.file (.text d.source))).node?
        (base.destination root ++ k) = some (.file content) ↔
      ∃ package className text, IsNamed package className ∧ k = placeOf package className ∧
        content = .text text ∧ (s.add d).get? (qualify package className) = some text := by
  rw [node?_put (h.not_directory d.package d.className)]
  by_cases hk : placeOf d.package d.className = k
  · subst hk
    rw [if_pos rfl]
    constructor
    · intro hc
      cases hc
      refine ⟨d.package, d.className, d.source, hn, rfl, rfl, ?_⟩
      rw [get?_add, Delivery.qualifiedName, if_pos rfl]
    · rintro ⟨package, className, text, hm, hplace, rfl, hget⟩
      obtain ⟨hpackage, hclass⟩ := (placeOf_eq_iff hn hm).mp hplace
      rw [get?_add, Delivery.qualifiedName, hpackage, hclass, if_pos rfl] at hget
      cases hget
      rfl
  · rw [if_neg fun he => hk (List.append_cancel_left he), h.file_iff]
    refine exists_congr fun package => exists_congr fun className => exists_congr fun text =>
      and_congr_right fun hm => and_congr_right fun hplace => and_congr_right fun _ => ?_
    rw [get?_add_of_placeOf_ne s hn hm (hplace ▸ hk)]

/-- Putting the file of a class is keeping its source. -/
theorem Simulates.put (h : Simulates root base t s done) {d : Delivery}
    (hn : IsNamed d.package d.className)
    (hl : t.locate (ofClass root d.package d.className) =
      .ok (base.destination root ++ placeOf d.package d.className)) :
    Simulates root base
      (t.put (base.destination root ++ placeOf d.package d.className) (.file (.text d.source)))
      (s.add d) (done ++ [d]) := by
  have hput := node?_put (n := .file (.text d.source)) (h.not_directory d.package d.className)
  have hkeep : ∀ k, t.node? k = some .directory →
      (t.put (base.destination root ++ placeOf d.package d.className)
        (.file (.text d.source))).node? k = some .directory := by
    intro k hk
    rw [hput, if_neg, hk]
    rintro rfl
    exact h.not_directory _ _ hk
  refine ⟨h.here, enter_of_enter hkeep h.entered, h.file_iff_put hn, ?directories, ?stored,
    ?located⟩
  case directories =>
    intro k hk
    rw [hput] at hk
    split at hk
    · cases hk
    · exact h.directories k hk
  case stored =>
    intro key
    rw [get?_add]
    by_cases hk : d.qualifiedName = key
    · simp [hk]
    · rw [if_neg hk, h.stored key]
      simp [or_and_right, exists_or, hk]
  case located =>
    intro e he
    have hbefore : t.locate (ofClass root e.package e.className) =
        .ok (base.destination root ++ placeOf e.package e.className) := by
      rcases List.mem_append.mp he with he | he
      · exact h.located e he
      · rw [List.mem_singleton.mp he]
        exact hl
    exact locate_of_locate (t := t) rfl hkeep hbefore

/-- No file stands on the way to a package. -/
theorem Simulates.not_file (h : Simulates root base t s done) {names : List String}
    (hn : ∀ name ∈ names, isIdentifier name = true) (content : Content) :
    t.node? (base.destination root ++ names) ≠ some (.file content) := by
  intro hf
  obtain ⟨package, className, text, -, rfl, -⟩ := (h.file_iff names content).mp hf
  have hid := hn (className ++ ".java") (by simp [placeOf])
  rw [isIdentifier_fileName] at hid
  cases hid

/-- The directories of a package can be made, and that changes nothing else. -/
theorem Simulates.opens (h : Simulates root base t s done) {names : List String}
    (hn : ∀ name ∈ names, isIdentifier name = true)
    (hsize : ∀ name ∈ names, name.utf8ByteSize ≤ nameLimit) :
    (t.makeOnWay false (base.destination root) names).2 = .ok (base.destination root ++ names) ∧
      Simulates root base (t.makeOnWay false (base.destination root) names).1 s done := by
  have hup : up ∉ names := by
    intro hu
    have hid := hn up hu
    cases hid
  have hfront : ∀ front, front <+: names → ∀ name ∈ front, isIdentifier name = true :=
    fun front hf name hm => hn name (hf.subset hm)
  refine ⟨makeOnWay_of_free hup hsize fun front hf => h.not_file (hfront front hf), ?_⟩
  refine h.grow (makeOnWay_grows t false _ names) ?_
  rintro k ⟨front, hf, rfl⟩
  exact ⟨front, reach_of_notMem fun hu => hup (hf.subset hu), hfront front hf⟩

/-- A delivery within the limits is taken, and the simulation goes on. -/
theorem Simulates.deliver (h : Simulates root base t s done) {d : Delivery}
    (hn : IsNamed d.package d.className)
    (hw : base.WithinLimits (ofClass root d.package d.className)) :
    ∃ t', (FileTree.sink root).deliver d t =
        (.ok [.beanWritten (ofClass root d.package d.className)], t') ∧
      Simulates root base t' (s.add d) (done ++ [d]) := by
  have hsteps : steps (ofClass root d.package d.className) =
      (steps root ++ partsOf d.package) ++ [d.className ++ ".java"] := by
    rw [steps_ofClass hn.notMem hn.isRelative, hn.placeOf_eq, List.append_assoc]
  have hlimits := hw.of_here h.here
  have hsize : ∀ name ∈ partsOf d.package, name.utf8ByteSize ≤ nameLimit := fun name hm =>
    hlimits.names name (by simp [hsteps, hm])
  obtain ⟨hok, hopen⟩ := h.opens hn.parts hsize
  have hmade : t.makeOnWay false (t.start (ofClass root d.package d.className))
      (steps root ++ partsOf d.package) =
        t.makeOnWay false (base.destination root) (partsOf d.package) := by
    rw [start_ofClass t hn.notMem hn.isRelative]
    exact makeOnWay_of_enter h.entered false _
  have hplace : base.destination root ++ partsOf d.package ++ [d.className ++ ".java"] =
      base.destination root ++ placeOf d.package d.className := by
    rw [hn.placeOf_eq, List.append_assoc]
  have hup : d.className ++ ".java" ≠ up := by
    intro he
    have hno := up_notMem_placeOf d.package d.className
    rw [hn.placeOf_eq, ← he] at hno
    exact hno (by simp)
  rw [← hmade] at hok hopen
  have hloc := locate_of_makeOnWay hlimits hsteps hup hok
  have hnot := hopen.not_directory d.package d.className
  rw [← hplace] at hnot
  have hwrite : t.writeText (ofClass root d.package d.className) d.source = (_, none) :=
    writeText_eq hlimits hsteps hup hok hnot
  rw [hplace] at hloc hwrite
  refine ⟨_, ?_, hopen.put hn hloc⟩
  rw [FileTree.sink, deliver_sinkBy, hwrite]

/-! ## All deliveries -/

theorem Simulates.deliverAll {ds : List Delivery} (h : Simulates root base t s done)
    (hn : ∀ d ∈ ds, IsNamed d.package d.className)
    (hw : ∀ d ∈ ds, base.WithinLimits (ofClass root d.package d.className)) :
    ∃ t' s', deliverAll (FileTree.sink root) ds t = .ok t' ∧
      deliverAll (Store.sink []) ds s = .ok s' ∧ Simulates root base t' s' (done ++ ds) := by
  induction ds generalizing t s done with
  | nil =>
    rw [List.append_nil]
    exact ⟨t, s, rfl, rfl, h⟩
  | cons d rest ih =>
    obtain ⟨hfirst, hrest⟩ := List.forall_mem_cons.mp hn
    obtain ⟨lfirst, lrest⟩ := List.forall_mem_cons.mp hw
    obtain ⟨t₁, hd, h₁⟩ := h.deliver hfirst lfirst
    obtain ⟨t', s', ht, hs, h'⟩ := ih h₁ hrest lrest
    rw [List.append_assoc, List.singleton_append] at h'
    refine ⟨t', s', ?_, ?_, h'⟩
    · simp only [Mirroring.deliverAll, hd]
      exact ht
    · have hstore : (Store.sink []).deliver d s = (.ok [], s.add d) := by simp [Store.sink]
      simp only [Mirroring.deliverAll, hstore]
      exact hs

end Simulates

/-- Whether a path leads to a directory with nothing below it. -/
structure IsFresh (t : FileTree) (root : String) : Prop where
  located : t.locate root = .ok (t.destination root)
  directory : t.node? (t.destination root) = some .directory
  empty : ∀ l, t.destination root <+: l → l ≠ t.destination root → t.node? l = none

theorem IsFresh.simulates {t : FileTree} {root : String} (h : IsFresh t root) :
    Simulates root t t .empty [] where
  here := rfl
  entered := enter_of_locate h.located h.directory
  file_iff k content := by
    have hstore : ∀ key, Store.empty.get? key = none := fun key => by
      simp [Store.get?, Store.empty]
    have hno : t.node? (t.destination root ++ k) ≠ some (.file content) := by
      by_cases hk : k = []
      · rw [hk, List.append_nil, h.directory]
        simp
      · rw [h.empty _ (List.prefix_append _ _) (by simpa using hk)]
        simp
    simp [hno, hstore]
  directories k hd name hm := by
    have hk : t.destination root ++ k ≠ t.destination root := by
      simpa using List.ne_nil_of_mem hm
    rw [h.empty _ (List.prefix_append _ _) hk] at hd
    cases hd
  stored key := by simp [Store.get?, Store.empty]
  located d hd := by cases hd

/-- What can be seen of a tree and a store after the same deliveries. -/
structure Mirrors (root : String) (t : FileTree) (s : Store) (done : List Delivery) : Prop where
  /-- The files below the root are those that the paths of the deliveries lead to. -/
  files : ∀ l, t.destination root <+: l → ((∃ content, t.node? l = some (.file content)) ↔
    ∃ d ∈ done, t.locate (ofClass root d.package d.className) = .ok l)
  keys : ∀ key, s.get? key ≠ none ↔ ∃ d ∈ done, d.qualifiedName = key
  /-- Different keys have different paths, which lead to different places. -/
  apart : ∀ d ∈ done, ∀ e ∈ done, d.qualifiedName ≠ e.qualifiedName →
    ofClass root d.package d.className ≠ ofClass root e.package e.className ∧
      t.locate (ofClass root d.package d.className) ≠ t.locate (ofClass root e.package e.className)
  /-- A file can be read exactly if the store has a source for its class, and then it holds it. -/
  texts : ∀ package className, IsNamed package className → ∀ text,
    t.readText (ofClass root package className) = .ok text ↔
      s.get? (qualify package className) = some text

section Mirrors
variable {root : String} {base t : FileTree} {s : Store} {done : List Delivery}

/-- A source in the store was handed over, and its path leads to its place. -/
theorem Simulates.located_of_get? (h : Simulates root base t s done)
    (hn : ∀ d ∈ done, IsNamed d.package d.className) {package : Option String}
    {className text : String} (hc : IsNamed package className)
    (hg : s.get? (qualify package className) = some text) :
    ∃ d ∈ done, d.package = package ∧ d.className = className ∧
      t.locate (ofClass root package className) =
        .ok (base.destination root ++ placeOf package className) := by
  obtain ⟨d, hd, hkey⟩ := (h.stored _).mp (by rw [hg]; simp)
  obtain ⟨rfl, rfl⟩ := (key_eq_iff (hn d hd) hc).mp hkey
  exact ⟨d, hd, rfl, rfl, h.located d hd⟩

theorem Simulates.mirrors (h : Simulates root base t s done)
    (hn : ∀ d ∈ done, IsNamed d.package d.className) : Mirrors root t s done where
  files l hl := by
    rw [destination_of_here h.here] at hl
    obtain ⟨k, rfl⟩ := hl
    constructor
    · rintro ⟨content, hf⟩
      obtain ⟨package, className, text, hc, rfl, -, hg⟩ := (h.file_iff k content).mp hf
      obtain ⟨d, hd, rfl, rfl, hl⟩ := h.located_of_get? hn hc hg
      exact ⟨d, hd, hl⟩
    · rintro ⟨d, hd, hl⟩
      rw [h.located d hd] at hl
      have hk : placeOf d.package d.className = k := List.append_cancel_left (Except.ok.inj hl)
      obtain ⟨text, hg⟩ := Option.ne_none_iff_exists'.mp ((h.stored _).mpr ⟨d, hd, rfl⟩)
      exact ⟨.text text, (h.file_iff k _).mpr ⟨_, _, text, hn d hd, hk.symm, rfl, hg⟩⟩
  keys := h.stored
  apart d hd e he hne := by
    have hpair : ¬ (d.package = e.package ∧ d.className = e.className) := fun hp =>
      hne ((key_eq_iff (hn d hd) (hn e he)).mpr hp)
    rw [h.located d hd, h.located e he]
    refine ⟨fun hp => hpair ((ofClass_eq_iff (hn d hd) (hn e he)).mp hp), fun hl => ?_⟩
    have hplace : placeOf d.package d.className = placeOf e.package e.className :=
      List.append_cancel_left (Except.ok.inj hl)
    exact hpair ((placeOf_eq_iff (hn d hd) (hn e he)).mp hplace)
  texts package className hc text := by
    rw [readText_eq_ok_iff (ofClass_ne_empty root package className)
      (namesDirectory_ofClass root package className)]
    constructor
    · rintro ⟨l, hl, hf⟩
      have hdest : l = base.destination root ++ placeOf package className := by
        rw [locate_eq_ok hl, destination_of_here h.here,
          destination_ofClass base hc.notMem hc.isRelative]
      rw [hdest, h.file_iff] at hf
      obtain ⟨p, c, x, hpc, hplace, hx, hg⟩ := hf
      obtain ⟨rfl, rfl⟩ := (placeOf_eq_iff hc hpc).mp hplace
      cases hx
      exact hg
    · intro hg
      obtain ⟨d, hd, rfl, rfl, hl⟩ := h.located_of_get? hn hc hg
      exact ⟨_, hl, (h.file_iff _ _).mpr ⟨_, _, text, hc, rfl, rfl, hg⟩⟩

end Mirrors

/-- Deliveries that are named by identifiers, and whose paths keep to the limits, are all taken, by
the files below a fresh root as by an empty store, and after every one of them the files mirror the
store. -/
theorem files_mirror_store (t : FileTree) (root : String) (ds : List Delivery)
    (hf : IsFresh t root) (hn : ∀ d ∈ ds, IsNamed d.package d.className)
    (hw : ∀ d ∈ ds, t.WithinLimits (ofClass root d.package d.className)) :
    ∀ done, done <+: ds → ∃ t' s', deliverAll (FileTree.sink root) done t = .ok t' ∧
      deliverAll (Store.sink []) done .empty = .ok s' ∧ Mirrors root t' s' done := by
  intro done hd
  have hdone : ∀ d ∈ done, IsNamed d.package d.className := fun d hm => hn d (hd.subset hm)
  obtain ⟨t', s', ht, hs, h⟩ :=
    hf.simulates.deliverAll hdone fun d hm => hw d (hd.subset hm)
  rw [List.nil_append] at h
  exact ⟨t', s', ht, hs, h.mirrors hdone⟩

/-- A directory `out` in the root, and nothing else. -/
def clearing : FileTree := (FileTree.empty []).put ["out"] .directory

theorem isFresh_clearing : IsFresh clearing "out" where
  located := rfl
  directory := by decide
  empty l hl hne := by
    have hroot : (FileTree.empty []).node? ["out"] = none := by decide
    have hdest : clearing.destination "out" = ["out"] := by decide
    rw [hdest] at hl hne
    obtain ⟨rest, rfl⟩ := hl
    unfold clearing
    rw [node?_put (by rw [hroot]; simp), if_neg (Ne.symm hne)]
    simp [node?, FileTree.empty]

/-- A class of a package, one of the same name without a package, and the first one anew. -/
def bundle : List Delivery :=
  [⟨some "a.b", "CBean", "first"⟩, ⟨none, "CBean", "other"⟩, ⟨some "a.b", "CBean", "second"⟩]

theorem bundle_mirrored :
    IsFresh clearing "out" ∧ (∀ d ∈ bundle, IsNamed d.package d.className) ∧
      (∀ d ∈ bundle, clearing.WithinLimits (ofClass "out" d.package d.className)) ∧
      ∃ t' s', deliverAll (FileTree.sink "out") bundle clearing = .ok t' ∧
        deliverAll (Store.sink []) bundle .empty = .ok s' ∧ Mirrors "out" t' s' bundle := by
  have hn : ∀ d ∈ bundle, IsNamed d.package d.className := by
    have hparts : ∀ d ∈ bundle, ∀ part ∈ partsOf d.package, isIdentifier part = true := by decide
    have hsimple : ∀ d ∈ bundle, isIdentifier d.className = true := by decide
    exact fun d hd => ⟨hparts d hd, hsimple d hd⟩
  have hw : ∀ d ∈ bundle, clearing.WithinLimits (ofClass "out" d.package d.className) := by
    have hfault : ∀ d ∈ bundle, pathFault? (ofClass "out" d.package d.className) = none := by
      decide
    have hnames : ∀ d ∈ bundle, ∀ name ∈ steps (ofClass "out" d.package d.className),
        name.utf8ByteSize ≤ nameLimit := by decide
    have hdraft : ∀ d ∈ bundle, clearing.hasRoomForDraft
        (parent (ofClass "out" d.package d.className)) = true := by decide
    exact fun d hd => ⟨hfault d hd, hnames d hd, hdraft d hd⟩
  exact ⟨isFresh_clearing, hn, hw,
    files_mirror_store clearing "out" bundle isFresh_clearing hn hw bundle List.prefix_rfl⟩

end RecordBean.Mirroring
