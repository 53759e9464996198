import RecordBean.Proofs.Pieces
import RecordBean.Proofs.Words

/-! # Paths, step by step

What a path is made of and how its parts get there. Joining puts the steps of a part behind the
steps of the path, unless the part is absolute: then nothing of the path is left. The path without
its last step is the beginning of the written path. The file of a class lies, for every root, as
many steps below the root as its package has, unless a part of the package is absolute. -/

namespace RecordBean.Path
open RecordBean.Text

theorem toList_slash : "/".toList = ['/'] := rfl

theorem steps_append {text a b : String} (h : text.toList = a.toList ++ '/' :: b.toList) :
    steps text = steps a ++ steps b := by
  unfold steps
  rw [split_append h, List.filter_append]

theorem steps_empty : steps "" = [] := by decide

theorem mem_steps {path s : String} (h : s ∈ steps path) :
    '/' ∉ s.toList ∧ s ≠ "" ∧ s ≠ "." := by
  obtain ⟨hs, hstep⟩ := List.mem_filter.mp h
  refine ⟨notMem_of_mem_split hs, ?_⟩
  simpa [isStep] using hstep

/-- A step cannot hold what the path does not hold. -/
theorem mem_of_mem_steps {path s : String} {c : Char} (h : s ∈ steps path) (hc : c ∈ s.toList) :
    c ∈ path.toList := mem_of_mem_split (List.mem_filter.mp h).1 hc

/-- A name that is no step aside is the only step of its path. -/
theorem steps_of_notMem {name : String} (h : '/' ∉ name.toList) (hs : isStep name = true) :
    steps name = [name] := by
  unfold steps
  rw [split_of_notMem h, List.filter_cons_of_pos hs, List.filter_nil]

/-! ## Joining -/

/-- Behind a path that is not empty a part stands after exactly one slash. -/
theorem exists_toList_join {path part : String} (hp : path ≠ "") (ha : isAbsolute part = false) :
    ∃ front : String, (join path part).toList = front.toList ++ '/' :: part.toList ∧
      (path = front ∨ path.toList = front.toList ++ '/' :: "".toList) := by
  unfold join
  rw [if_neg (by simp [ha])]
  by_cases ho : isOpenEnded path = true
  · have hlast : path.toList.getLast? = some '/' := by
      unfold isOpenEnded at ho
      rcases Bool.or_eq_true_iff.mp ho with he | hl
      · exact absurd (String.isEmpty_iff.mp he) hp
      · simpa using hl
    obtain ⟨front, hfront⟩ := List.getLast?_eq_some_iff.mp hlast
    refine ⟨String.ofList front, ?_, Or.inr ?_⟩
    · rw [if_pos ho, String.toList_append, hfront]
      simp
    · rw [hfront]
      simp
  · refine ⟨path, ?_, Or.inl rfl⟩
    rw [if_neg ho]
    simp

theorem join_empty {part : String} (ha : isAbsolute part = false) : join "" part = part := by
  have hopen : isOpenEnded "" = true := by decide
  unfold join
  rw [if_neg (by simp [ha]), if_pos hopen]
  simp

theorem join_of_isAbsolute {path part : String} (ha : isAbsolute part = true) :
    join path part = part := by
  unfold join
  rw [if_pos ha]

theorem steps_join (path : String) {part : String} (ha : isAbsolute part = false) :
    steps (join path part) = steps path ++ steps part := by
  by_cases hp : path = ""
  · rw [hp, join_empty ha, steps_empty, List.nil_append]
  · obtain ⟨front, hjoin, hpath⟩ := exists_toList_join hp ha
    rw [steps_append hjoin]
    rcases hpath with rfl | hpath
    · rfl
    · rw [steps_append hpath, steps_empty, List.append_nil]

/-- A joined path ends as its last part does. -/
theorem getLast?_split_join (path : String) {part : String} (ha : isAbsolute part = false) :
    (split '/' (join path part)).getLast? = (split '/' part).getLast? := by
  by_cases hp : path = ""
  · rw [hp, join_empty ha]
  · obtain ⟨front, hjoin, -⟩ := exists_toList_join hp ha
    rw [split_append hjoin, List.getLast?_append_of_ne_nil _ (split_ne_nil '/' part)]

theorem isAbsolute_join (path part : String) :
    isAbsolute (join path part) = (isAbsolute part || isAbsolute path) := by
  cases ha : isAbsolute part with
  | true => rw [join_of_isAbsolute ha, ha, Bool.true_or]
  | false =>
    rw [Bool.false_or]
    by_cases hp : path = ""
    · rw [hp, join_empty ha, ha]
      rfl
    · obtain ⟨front, hjoin, hpath⟩ := exists_toList_join hp ha
      unfold isAbsolute
      rw [hjoin]
      rcases hpath with rfl | hpath
      · obtain ⟨c, cs, hc⟩ := List.exists_cons_of_ne_nil (String.toList_eq_nil_iff.not.mpr hp)
        rw [hc]
        rfl
      · rw [hpath]
        cases front.toList <;> rfl

/-! ## Components -/

/-- Where a path sets out from, if it says so: the root, or the directory itself. -/
def lead (path : String) : List String :=
  if isAbsolute path then ["/"] else if (split '/' path).head? = some "." then ["."] else []

/-- All that a path is made of: where it sets out from, and its steps. -/
def components (path : String) : List String := lead path ++ steps path

theorem isAbsolute_of_lead_eq_nil {path : String} (h : lead path = []) :
    isAbsolute path = false := by
  unfold lead at h
  by_cases ha : isAbsolute path = true
  · rw [if_pos ha] at h
    cases h
  · simpa using ha

/-- A part that sets out from nowhere in particular adds its steps and nothing else. -/
theorem components_join (path : String) {part : String} (h : lead part = []) :
    components (join path part) = components path ++ steps part := by
  have ha := isAbsolute_of_lead_eq_nil h
  by_cases hp : path = ""
  · have hempty : components "" = [] := by decide
    rw [hp, join_empty ha, hempty, List.nil_append, components, h, List.nil_append]
  · have hlead : lead (join path part) = lead path := by
      have hhead : (split '/' (join path part)).head? = (split '/' path).head? := by
        obtain ⟨front, hjoin, hpath⟩ := exists_toList_join hp ha
        rw [split_append hjoin, List.head?_append_of_ne_nil _ (split_ne_nil '/' front)]
        rcases hpath with rfl | hpath
        · rfl
        · rw [split_append hpath, List.head?_append_of_ne_nil _ (split_ne_nil '/' front)]
      unfold lead
      rw [isAbsolute_join, ha, Bool.false_or, hhead]
    unfold components
    rw [hlead, steps_join path ha, List.append_assoc]

/-- The root of all paths is no step. -/
theorem notMem_components_of_not_isAbsolute {path : String} (h : isAbsolute path = false) :
    "/" ∉ components path := by
  unfold components lead
  rw [if_neg (by simp [h]), List.mem_append, not_or]
  constructor
  · split
    · decide
    · exact List.not_mem_nil
  · intro hm
    exact (mem_steps hm).1 (by decide)

/-! ## The directory of a path -/

/-- The pieces of the directory of a path. -/
def piecesAbove (path : String) : List String :=
  ((((split '/' path).reverse.dropWhile (!isStep ·)).drop 1).dropWhile (!isStep ·)).reverse

theorem parent_eq (path : String) :
    parent path =
      if (piecesAbove path).isEmpty && isAbsolute path then "/"
      else joined "/" (piecesAbove path) := by
  unfold parent piecesAbove
  simp only [List.isEmpty_reverse]

theorem filter_dropWhile_not {α : Type} (p : α → Bool) (l : List α) :
    (l.dropWhile (!p ·)).filter p = l.filter p := by
  induction l with
  | nil => rfl
  | cons a l ih =>
    by_cases ha : p a = true
    · rw [List.dropWhile_cons_of_neg (by simp [ha])]
    · rw [List.dropWhile_cons_of_pos (by simp [ha]), ih, List.filter_cons_of_neg ha]

/-- What the search for the last step leaves of some pieces ends in a step, if it leaves any. -/
theorem head?_dropWhile_not {α : Type} {p : α → Bool} {l : List α} {a : α}
    (h : (l.dropWhile (!p ·)).head? = some a) : p a = true := by
  have := List.head?_dropWhile_not (!p ·) l
  rw [h] at this
  simpa using this

theorem filter_piecesAbove (path : String) :
    (piecesAbove path).filter isStep = (steps path).dropLast := by
  unfold piecesAbove steps
  rw [List.filter_reverse, filter_dropWhile_not]
  have hsteps : (split '/' path).filter isStep =
      (((split '/' path).reverse.dropWhile (!isStep ·)).filter isStep).reverse := by
    rw [filter_dropWhile_not, List.filter_reverse, List.reverse_reverse]
  rw [hsteps]
  cases hd : (split '/' path).reverse.dropWhile (!isStep ·) with
  | nil => rfl
  | cons last rest =>
    have hlast : isStep last = true := head?_dropWhile_not (by rw [hd]; rfl)
    rw [List.drop_one, List.tail_cons, List.filter_cons_of_pos hlast, List.reverse_cons,
      List.dropLast_concat]

theorem piecesAbove_isPrefix (path : String) : piecesAbove path <+: split '/' path := by
  unfold piecesAbove
  rw [← List.reverse_suffix, List.reverse_reverse]
  exact (List.dropWhile_suffix _).trans ((List.drop_suffix 1 _).trans (List.dropWhile_suffix _))

theorem exists_toList_of_isAbsolute {path : String} (h : isAbsolute path = true) :
    ∃ rest, path.toList = '/' :: rest :=
  List.head?_eq_some_iff.mp (eq_of_beq h)

theorem parent_isPrefix (path : String) : (parent path).toList <+: path.toList := by
  rw [parent_eq]
  split
  · rename_i h
    obtain ⟨rest, hr⟩ := exists_toList_of_isAbsolute (Bool.and_eq_true_iff.mp h).2
    rw [hr]
    exact ⟨rest, rfl⟩
  · obtain ⟨rest, hr⟩ := piecesAbove_isPrefix path
    have hpath : path.toList = (joined "/" (piecesAbove path ++ rest)).toList := by
      rw [hr, joined_split toList_slash]
    rw [hpath]
    by_cases hp : piecesAbove path = []
    · rw [hp]
      exact List.nil_prefix
    · by_cases hrest : rest = []
      · simp [hrest]
      · rw [toList_joined_append hp hrest, List.append_assoc]
        exact List.prefix_append _ _

/-- The steps of the directory are those of its pieces. -/
theorem steps_parent_eq (path : String) :
    steps (parent path) = (piecesAbove path).filter isStep := by
  rw [parent_eq]
  by_cases hp : piecesAbove path = []
  · rw [hp]
    cases isAbsolute path <;> decide
  · rw [if_neg (by simp [hp])]
    have hslash : ∀ p ∈ piecesAbove path, '/' ∉ p.toList := fun p hm =>
      notMem_of_mem_split ((piecesAbove_isPrefix path).subset hm)
    unfold steps
    rw [split_joined toList_slash hp hslash]

theorem steps_parent (path : String) : steps (parent path) = (steps path).dropLast := by
  rw [steps_parent_eq, filter_piecesAbove]

/-- The directory of a path is an absolute path exactly if the path is one. -/
theorem isAbsolute_parent (path : String) : isAbsolute (parent path) = isAbsolute path := by
  by_cases hp : piecesAbove path = []
  · rw [parent_eq, hp]
    cases isAbsolute path <;> rfl
  · -- the pieces end in a step, so the directory is not written as the empty text
    have hne : parent path ≠ "" := by
      intro he
      have hsteps := steps_parent_eq path
      rw [he, steps_empty] at hsteps
      have hlast : ∃ last, (piecesAbove path).reverse.head? = some last :=
        ⟨_, List.head?_eq_some_head (List.reverse_ne_nil_iff.mpr hp)⟩
      obtain ⟨last, hlast⟩ := hlast
      have hm : last ∈ piecesAbove path := List.mem_reverse.mp (List.mem_of_head? hlast)
      have hstep : isStep last = true := by
        unfold piecesAbove at hlast
        rw [List.reverse_reverse] at hlast
        exact head?_dropWhile_not hlast
      have hin : last ∈ (piecesAbove path).filter isStep := List.mem_filter.mpr ⟨hm, hstep⟩
      rw [← hsteps] at hin
      cases hin
    obtain ⟨c, cs, hc⟩ := List.exists_cons_of_ne_nil (String.toList_eq_nil_iff.not.mpr hne)
    obtain ⟨rest, hr⟩ := parent_isPrefix path
    unfold isAbsolute
    rw [← hr, hc]
    rfl

/-! ## The file of a class -/

/-- The parts of a package, each of which is a part of a path. -/
def partsOf : Option String → List String
  | some p => split '.' p
  | none => []

/-- What stands below the root directory on the way to the file of a class. -/
def placeOf (package : Option String) (className : String) : List String :=
  (partsOf package).flatMap steps ++ [className ++ ".java"]

/-- Whether the parts of a package can be put behind any path. -/
def IsRelative (package : Option String) : Prop :=
  ∀ part ∈ partsOf package, isAbsolute part = false

instance (package : Option String) : Decidable (IsRelative package) :=
  inferInstanceAs (Decidable (∀ part ∈ partsOf package, isAbsolute part = false))

theorem ofClass_eq (root : String) (package : Option String) (className : String) :
    ofClass root package className =
      join ((partsOf package).foldl join root) (className ++ ".java") := by
  cases package <;> rfl

theorem notMem_of_mem_partsOf {package : Option String} {part : String}
    (h : part ∈ partsOf package) : '.' ∉ part.toList := by
  cases package with
  | none => cases h
  | some p => exact notMem_of_mem_split h

/-- A package brings in no step to the directory above. -/
theorem up_notMem_steps {package : Option String} {part : String} (h : part ∈ partsOf package) :
    up ∉ steps part := by
  intro hu
  have hdot : '.' ∈ up.toList := by decide
  exact notMem_of_mem_partsOf h (mem_of_mem_steps hu hdot)

theorem lead_of_notMem {part : String} (hd : '.' ∉ part.toList) (ha : isAbsolute part = false) :
    lead part = [] := by
  unfold lead
  rw [if_neg (by simp [ha]), if_neg]
  intro he
  have hm : "." ∈ split '/' part := List.mem_of_head? he
  exact hd (mem_of_mem_split hm (by decide))

theorem components_foldl_join {parts : List String} (h : ∀ part ∈ parts, lead part = [])
    (root : String) :
    components (parts.foldl join root) = components root ++ parts.flatMap steps := by
  induction parts generalizing root with
  | nil => simp
  | cons part parts ih =>
    rw [List.foldl_cons, ih fun p hp => h p (List.mem_cons_of_mem part hp),
      components_join root (h part List.mem_cons_self), List.flatMap_cons, List.append_assoc]

theorem steps_foldl_join {parts : List String} (h : ∀ part ∈ parts, isAbsolute part = false)
    (root : String) : steps (parts.foldl join root) = steps root ++ parts.flatMap steps := by
  induction parts generalizing root with
  | nil => simp
  | cons part parts ih =>
    rw [List.foldl_cons, ih fun p hp => h p (List.mem_cons_of_mem part hp),
      steps_join root (h part List.mem_cons_self), List.flatMap_cons, List.append_assoc]

/-- From an absolute part on, it makes no difference what stands in front. -/
theorem foldl_join_of_any {parts : List String} (h : parts.any isAbsolute = true)
    (root other : String) : parts.foldl join root = parts.foldl join other := by
  induction parts generalizing root other with
  | nil => cases h
  | cons part parts ih =>
    rw [List.foldl_cons, List.foldl_cons]
    by_cases ha : isAbsolute part = true
    · rw [join_of_isAbsolute ha, join_of_isAbsolute ha]
    · rw [List.any_cons, Bool.eq_false_iff.mpr ha, Bool.false_or] at h
      exact ih h _ _

/-- A path is absolute once one of its parts is. -/
theorem isAbsolute_foldl_join (parts : List String) (root : String) :
    isAbsolute (parts.foldl join root) = (parts.any isAbsolute || isAbsolute root) := by
  induction parts generalizing root with
  | nil => simp
  | cons part parts ih =>
    rw [List.foldl_cons, ih, isAbsolute_join, List.any_cons]
    cases isAbsolute part <;> simp

theorem isAbsolute_of_notMem {part : String} (h : '/' ∉ part.toList) :
    isAbsolute part = false := by
  cases ha : isAbsolute part with
  | false => rfl
  | true =>
    obtain ⟨rest, hr⟩ := exists_toList_of_isAbsolute ha
    rw [hr] at h
    exact absurd List.mem_cons_self h

/-- The suffix makes a step of every name. -/
theorem isStep_fileName (className : String) : isStep (className ++ ".java") = true := by
  have hlength : ∀ s : String, s.toList.length < 5 → className ++ ".java" ≠ s := by
    rintro s hs rfl
    rw [String.toList_append, List.length_append] at hs
    have : ".java".toList.length = 5 := rfl
    omega
  simp only [isStep, Bool.and_eq_true, bne_iff_ne]
  exact ⟨hlength "" (by decide), hlength "." (by decide)⟩

section ClassFile
variable {className : String} (hn : '/' ∉ className.toList)
include hn

theorem notMem_fileName : '/' ∉ (className ++ ".java").toList := by
  rw [String.toList_append, List.mem_append, not_or]
  exact ⟨hn, by decide⟩

theorem steps_fileName : steps (className ++ ".java") = [className ++ ".java"] :=
  steps_of_notMem (notMem_fileName hn) (isStep_fileName className)

theorem lead_fileName : lead (className ++ ".java") = [] := by
  have hdot : className ++ ".java" ≠ "." := by
    have hs := isStep_fileName className
    simp only [isStep, Bool.and_eq_true, bne_iff_ne] at hs
    exact hs.2
  unfold lead
  rw [if_neg (by simp [isAbsolute_of_notMem (notMem_fileName hn)]),
    split_of_notMem (notMem_fileName hn), if_neg]
  simpa using hdot

/-- Below any root a class of a relative package has the same place. -/
theorem components_ofClass {package : Option String} (hp : IsRelative package) (root : String) :
    components (ofClass root package className) =
      components root ++ placeOf package className := by
  have hlead : ∀ part ∈ partsOf package, lead part = [] := fun part hm =>
    lead_of_notMem (notMem_of_mem_partsOf hm) (hp part hm)
  rw [ofClass_eq, components_join _ (lead_fileName hn), steps_fileName hn,
    components_foldl_join hlead, List.append_assoc]
  rfl

theorem steps_ofClass {package : Option String} (hp : IsRelative package) (root : String) :
    steps (ofClass root package className) = steps root ++ placeOf package className := by
  have ha := isAbsolute_of_notMem (notMem_fileName hn)
  rw [ofClass_eq, steps_join _ ha, steps_fileName hn, steps_foldl_join hp, List.append_assoc]
  rfl

theorem isAbsolute_ofClass (package : Option String) (root : String) :
    isAbsolute (ofClass root package className) =
      ((partsOf package).any isAbsolute || isAbsolute root) := by
  rw [ofClass_eq, isAbsolute_join, isAbsolute_of_notMem (notMem_fileName hn), Bool.false_or,
    isAbsolute_foldl_join]

end ClassFile

/-- A file name ends in its suffix, also where the class has slashes in its name. -/
theorem exists_getLast?_split_fileName (className : String) :
    ∃ name, (split '/' (className ++ ".java")).getLast? = some (name ++ ".java") := by
  cases hs : Name.splitAtLast '/' className.toList with
  | none =>
    have hn : '/' ∉ className.toList := Name.splitAtLast_eq_none.mp hs
    refine ⟨className, ?_⟩
    rw [split_of_notMem (notMem_fileName hn)]
    rfl
  | some parts =>
    obtain ⟨before, after⟩ := parts
    obtain ⟨hc, hn⟩ := Name.splitAtLast_eq_some.mp hs
    have hlast : '/' ∉ (String.ofList after).toList := by simpa using hn
    have htext : (className ++ ".java").toList =
        (String.ofList before).toList ++ '/' :: (String.ofList after ++ ".java").toList := by
      simp [hc]
    refine ⟨String.ofList after, ?_⟩
    rw [split_append htext, List.getLast?_append_of_ne_nil _ (split_ne_nil '/' _),
      split_of_notMem (notMem_fileName hlast)]
    rfl

section AnyClass
variable (root : String) (package : Option String) (className : String)

/-- The path of a class ends in the name of a source file, whatever the class is called. -/
theorem exists_getLast?_split_ofClass :
    ∃ name, (split '/' (ofClass root package className)).getLast? = some (name ++ ".java") := by
  obtain ⟨name, hname⟩ := exists_getLast?_split_fileName className
  refine ⟨name, ?_⟩
  rw [ofClass_eq]
  by_cases ha : isAbsolute (className ++ ".java") = true
  · rw [join_of_isAbsolute ha, hname]
  · rw [getLast?_split_join _ (by simpa using ha), hname]

theorem namesDirectory_ofClass : namesDirectory (ofClass root package className) = false := by
  obtain ⟨name, hlast⟩ := exists_getLast?_split_ofClass root package className
  have hs := isStep_fileName name
  simp only [isStep, Bool.and_eq_true, bne_iff_ne] at hs
  unfold namesDirectory
  rw [hlast]
  simp [hs.1, hs.2]

theorem ofClass_ne_empty : ofClass root package className ≠ "" := by
  intro he
  obtain ⟨name, hlast⟩ := exists_getLast?_split_ofClass root package className
  have hs := isStep_fileName name
  rw [he] at hlast
  rw [← Option.some.inj hlast] at hs
  cases hs

/-- The last step of the path of a class is a file name. -/
theorem exists_steps_ofClass :
    ∃ front name, steps (ofClass root package className) = front ++ [name ++ ".java"] := by
  obtain ⟨name, hlast⟩ := exists_getLast?_split_ofClass root package className
  refine ⟨((split '/' (ofClass root package className)).dropLast).filter isStep, name, ?_⟩
  rw [steps, ← List.dropLast_append_getLast? _ hlast, List.filter_append,
    List.filter_cons_of_pos (isStep_fileName name), List.dropLast_concat]
  rfl

/-- There is always a directory to put a class into. -/
theorem hasParent_ofClass : hasParent (ofClass root package className) = true := by
  obtain ⟨front, name, hs⟩ := exists_steps_ofClass root package className
  unfold hasParent
  rw [hs]
  simp

end AnyClass

theorem any_isAbsolute_eq_true_iff {package : Option String} :
    (partsOf package).any isAbsolute = true ↔ ¬ IsRelative package := by
  simp [IsRelative]

/-- An absolute part of the package leaves nothing of the root. -/
theorem ofClass_of_not_isRelative {package : Option String} (hp : ¬ IsRelative package)
    (root other className : String) :
    ofClass root package className = ofClass other package className := by
  rw [ofClass_eq, ofClass_eq, foldl_join_of_any (any_isAbsolute_eq_true_iff.mpr hp) root other]

/-- No step on the way from the root directory to a class leads up. -/
theorem up_notMem_placeOf (package : Option String) (className : String) :
    up ∉ placeOf package className := by
  unfold placeOf
  rw [List.mem_append, not_or]
  constructor
  · intro hu
    obtain ⟨part, hm, hs⟩ := List.mem_flatMap.mp hu
    exact up_notMem_steps hm hs
  · intro hu
    have hlist := congrArg (fun s => s.toList.length) (List.mem_singleton.mp hu)
    have hj : ".java".toList.length = 5 := rfl
    have hup : up.toList.length = 2 := rfl
    simp only [String.toList_append, List.length_append] at hlist
    omega

/-! ## Below a root -/

/-- Whether one path begins with all that another is made of. -/
def IsBelow (root path : String) : Prop := components root <+: components path

instance (root path : String) : Decidable (IsBelow root path) :=
  inferInstanceAs (Decidable (components root <+: components path))

theorem isBelow_ofClass {package : Option String} {className : String}
    (hn : '/' ∉ className.toList) (hp : IsRelative package) (root : String) :
    IsBelow root (ofClass root package className) := by
  unfold IsBelow
  rw [components_ofClass hn hp]
  exact List.prefix_append _ _

/-- A relative root is left as soon as a part of the package is absolute. -/
theorem isBelow_ofClass_iff {package : Option String} {className : String}
    (hn : '/' ∉ className.toList) {root : String} (hr : isAbsolute root = false)
    (hne : components root ≠ []) :
    IsBelow root (ofClass root package className) ↔ IsRelative package := by
  refine ⟨fun hb => ?_, fun hp => isBelow_ofClass hn hp root⟩
  by_contra hp
  have ha : isAbsolute (ofClass root package className) = true := by
    rw [isAbsolute_ofClass hn, any_isAbsolute_eq_true_iff.mpr hp, Bool.true_or]
  have hlead : components (ofClass root package className) =
      "/" :: steps (ofClass root package className) := by
    unfold components lead
    rw [if_pos ha]
    rfl
  obtain ⟨first, rest, hc⟩ := List.exists_cons_of_ne_nil hne
  unfold IsBelow at hb
  rw [hlead, hc, List.cons_prefix_cons] at hb
  have hm : first ∈ components root := by
    rw [hc]
    exact List.mem_cons_self
  rw [hb.1] at hm
  exact notMem_components_of_not_isAbsolute hr hm

end RecordBean.Path
