import RecordBean.Proofs.Pieces
import RecordBean.Proofs.Words

/-! # Reading printed text

The readers for generated text, and what they give back on text of the expected form. A text is
taken apart by a prefix or a suffix, at the first occurrence of a character, into its lines, at the
parenthesis that opens the last argument list, or at the commas outside angle brackets. Each of the
last two looks at every character and counts brackets; the facts about them quantify over all that
can follow, so that facts about parts can be put together. -/

namespace RecordBean.Reading
open RecordBean.Text

/-! ## Both ends -/

theorem dropPrefix?_append {α : Type} [BEq α] [LawfulBEq α] (p cs : List α) :
    (p ++ cs).dropPrefix? p = some cs :=
  List.dropPrefix?_append_of_beq cs (BEq.refl p)

theorem dropSuffix?_append {α : Type} [BEq α] [LawfulBEq α] (cs s : List α) :
    (cs ++ s).dropSuffix? s = some cs :=
  List.dropSuffix?_eq_some_iff.mpr ⟨s, rfl, BEq.refl s⟩

/-- A prefix is refused if some character of it is not where it would have to be. -/
theorem dropPrefix?_eq_none {cs p : List Char} (i : Nat) {c : Char} (hp : p[i]? = some c)
    (hc : cs[i]? ≠ some c) : cs.dropPrefix? p = none := by
  rw [Option.eq_none_iff_forall_ne_some]
  intro rest hr
  obtain ⟨p', hcs, he⟩ := List.dropPrefix?_eq_some_iff.mp hr
  rw [eq_of_beq he] at hcs
  have hi : i < p.length := (List.getElem?_eq_some_iff.mp hp).1
  rw [hcs, List.getElem?_append_left hi] at hc
  exact hc hp

/-- The suffix is refused at its last character that differs. -/
theorem dropSuffix?_eq_none {c d : Char} (cs s tail : List Char) (h : c ≠ d) :
    (cs ++ c :: tail).dropSuffix? (s ++ d :: tail) = none := by
  rw [Option.eq_none_iff_forall_ne_some]
  intro p hp
  obtain ⟨s', hs, he⟩ := List.dropSuffix?_eq_some_iff.mp hp
  rw [eq_of_beq he, ← List.append_assoc] at hs
  have htail : c :: tail = d :: tail := List.append_inj_right' hs rfl
  exact h (List.cons_eq_cons.mp htail).1

/-! ## The first occurrence of a character -/

/-- Split at the first occurrence of a character, which goes to neither part. -/
def cut (separator : Char) : List Char → Option (List Char × List Char)
  | [] => none
  | c :: rest =>
    if c = separator then some ([], rest)
    else (cut separator rest).map fun (before, after) => (c :: before, after)

theorem cut_append {separator : Char} {before : List Char} (after : List Char)
    (h : separator ∉ before) :
    cut separator (before ++ separator :: after) = some (before, after) := by
  induction before with
  | nil => simp [cut]
  | cons c before ih =>
    rw [List.mem_cons, not_or] at h
    obtain ⟨hc, hb⟩ := h
    rw [List.cons_append, cut, if_neg (Ne.symm hc), ih hb]
    rfl

theorem cut_eq_none {separator : Char} {cs : List Char} (h : separator ∉ cs) :
    cut separator cs = none := by
  induction cs with
  | nil => rfl
  | cons c cs ih =>
    rw [List.mem_cons, not_or] at h
    obtain ⟨hc, hr⟩ := h
    rw [cut, if_neg (Ne.symm hc), ih hr]
    rfl

/-! ## Names of types -/

/-- Identifiers with dots between them. -/
def IsTypeName (name : String) : Prop :=
  ∀ piece ∈ Path.split '.' name, Name.isIdentifier piece = true

instance (name : String) : Decidable (IsTypeName name) :=
  inferInstanceAs (Decidable (∀ piece ∈ Path.split '.' name, Name.isIdentifier piece = true))

/-- The name of a type has no character outside words but the dot. -/
theorem IsTypeName.notMem {name : String} {c : Char} (h : IsTypeName name)
    (hw : isWordChar c = false) (hd : c ≠ '.') : c ∉ name.toList := by
  intro hc
  obtain ⟨piece, hp, hcp⟩ := Path.mem_splitChars hc hd
  have hi := h (String.ofList piece) (List.mem_map_of_mem hp)
  have := (Name.isWord_of_isIdentifier hi).notMem hw
  rw [String.toList_ofList] at this
  exact this hcp

/-! ## Lines -/

/-- The lines of a text. Behind the last line feed there is one more, which is empty. -/
def lines (text : String) : List (List Char) := Path.splitChars '\n' text.toList

theorem lines_unlines {ls : List String} (h : ∀ l ∈ ls, '\n' ∉ l.toList) :
    lines (unlines ls) = ls.map String.toList ++ [[]] := by
  unfold lines
  induction ls with
  | nil => rfl
  | cons l ls ih =>
    have hn : "\n".toList = ['\n'] := rfl
    have ht : (unlines (l :: ls)).toList = l.toList ++ '\n' :: (unlines ls).toList := by
      rw [unlines, String.toList_append, String.toList_append, hn]
      simp
    rw [ht, Path.splitChars_append, Path.splitChars_of_notMem (h l List.mem_cons_self),
      ih fun m hm => h m (List.mem_cons_of_mem l hm)]
    rfl

/-! ## The last argument list -/

def prepend (cs : List Char) (parts : Option (List Char × List Char)) :
    Option (List Char × List Char) :=
  parts.map fun (before, after) => (cs ++ before, after)

@[simp] theorem prepend_prepend (cs ds : List Char) (parts : Option (List Char × List Char)) :
    prepend cs (prepend ds parts) = prepend (cs ++ ds) parts := by
  cases parts <;> simp [prepend]

/-- Walk over a reversed text up to an opening parenthesis without a partner; `depth` counts the
closing ones that still wait for theirs. -/
def backToOpening : Nat → List Char → Option (List Char × List Char)
  | _, [] => none
  | depth, c :: rest =>
    if c = ')' then prepend [c] (backToOpening (depth + 1) rest)
    else if c = '(' then
      if depth = 0 then some ([], rest) else prepend [c] (backToOpening (depth - 1) rest)
    else prepend [c] (backToOpening depth rest)

/-- Split at the last opening parenthesis that nothing closes. -/
def atOpening (text : List Char) : Option (List Char × List Char) :=
  (backToOpening 0 text.reverse).map fun (after, before) => (before.reverse, after.reverse)

/-- A text over which the walk passes, at any depth and whatever stands in front of it. -/
def IsClosed (cs : List Char) : Prop :=
  ∀ depth rest, backToOpening depth (cs.reverse ++ rest) =
    prepend cs.reverse (backToOpening depth rest)

theorem isClosed_of_notMem {cs : List Char} (hopen : '(' ∉ cs) (hclose : ')' ∉ cs) :
    IsClosed cs := by
  intro depth rest
  have ho : '(' ∉ cs.reverse := by simpa using hopen
  have hc : ')' ∉ cs.reverse := by simpa using hclose
  generalize cs.reverse = ds at ho hc
  induction ds with
  | nil => cases h : backToOpening depth rest <;> simp [prepend, h]
  | cons d ds ih =>
    rw [List.mem_cons, not_or] at ho
    obtain ⟨hod, hods⟩ := ho
    rw [List.mem_cons, not_or] at hc
    obtain ⟨hcd, hcds⟩ := hc
    rw [List.cons_append, backToOpening, if_neg (Ne.symm hcd), if_neg (Ne.symm hod),
      ih hods hcds, prepend_prepend]
    rfl

theorem IsClosed.append {cs ds : List Char} (hc : IsClosed cs) (hd : IsClosed ds) :
    IsClosed (cs ++ ds) := by
  intro depth rest
  rw [List.reverse_append, List.append_assoc, hd, hc, prepend_prepend]

theorem IsClosed.parentheses {cs : List Char} (h : IsClosed cs) :
    IsClosed ('(' :: cs ++ [')']) := by
  intro depth rest
  have hr : ('(' :: cs ++ [')']).reverse = ')' :: (cs.reverse ++ ['(']) := by simp
  rw [hr, List.cons_append, List.append_assoc, backToOpening, if_pos rfl, h]
  rw [List.singleton_append, backToOpening, if_neg (by decide), if_pos rfl, if_neg (by omega)]
  simp

theorem atOpening_append {args : List Char} (before : List Char) (h : IsClosed args) :
    atOpening (before ++ '(' :: args) = some (before, args) := by
  have hr : (before ++ '(' :: args).reverse = args.reverse ++ '(' :: before.reverse := by simp
  have hopen : backToOpening 0 ('(' :: before.reverse) = some ([], before.reverse) := by
    rw [backToOpening, if_neg (by decide), if_pos rfl, if_pos rfl]
  unfold atOpening
  rw [hr, h, hopen]
  simp [prepend]

/-! ## Lists of items -/

/-- How many angle brackets are open after a character. -/
def depthAfter (c : Char) (depth : Nat) : Nat :=
  if c = '<' then depth + 1 else if c = '>' then depth - 1 else depth

def extend (cs : List Char) : List (List Char) → List (List Char)
  | [] => [cs]
  | piece :: pieces => (cs ++ piece) :: pieces

@[simp] theorem extend_extend (cs ds : List Char) (pieces : List (List Char)) :
    extend cs (extend ds pieces) = extend (cs ++ ds) pieces := by
  cases pieces <;> simp [extend]

/-- The pieces between the commas outside angle brackets. -/
def pieces : Nat → List Char → List (List Char)
  | _, [] => [[]]
  | depth, c :: rest =>
    if c = ',' ∧ depth = 0 then [] :: pieces 0 rest
    else extend [c] (pieces (depthAfter c depth) rest)

def dropBlank : List Char → List Char
  | ' ' :: cs => cs
  | cs => cs

/-- The items of a list in which a comma and a blank stand between neighbours. -/
def items : List Char → List (List Char)
  | [] => []
  | c :: rest =>
    match pieces 0 (c :: rest) with
    | [] => []
    | first :: others => first :: others.map dropBlank

/-- Whether the angle brackets are balanced from a depth on, with commas only inside them. -/
def wellBracketed : Nat → List Char → Bool
  | depth, [] => depth == 0
  | depth, c :: rest =>
    !(c == '>' && depth == 0) && !(c == ',' && depth == 0)
      && wellBracketed (depthAfter c depth) rest

theorem pieces_append {depth : Nat} {cs : List Char} (rest : List Char)
    (h : wellBracketed depth cs = true) :
    pieces depth (cs ++ rest) = extend cs (pieces 0 rest) := by
  induction cs generalizing depth with
  | nil =>
    have hd : depth = 0 := by simpa [wellBracketed] using h
    rw [hd]
    cases hp : pieces 0 rest with
    | nil =>
      cases rest with
      | nil => cases hp
      | cons c rest =>
        rw [pieces] at hp
        split at hp
        · cases hp
        · cases hq : pieces (depthAfter c 0) rest <;> rw [hq] at hp <;> cases hp
    | cons piece others => simp [extend, hp]
  | cons c cs ih =>
    simp only [wellBracketed, Bool.and_eq_true, Bool.not_eq_true', Bool.and_eq_false_iff,
      beq_eq_false_iff_ne] at h
    obtain ⟨⟨_, hcomma⟩, hrest⟩ := h
    have hc : ¬ (c = ',' ∧ depth = 0) := by
      rintro ⟨h1, h2⟩
      rcases hcomma with hcomma | hcomma
      · exact hcomma h1
      · exact hcomma h2
    rw [List.cons_append, pieces, if_neg hc, ih hrest, extend_extend]
    rfl

theorem wellBracketed_append {depth : Nat} {cs ds : List Char}
    (hc : wellBracketed depth cs = true) (hd : wellBracketed 0 ds = true) :
    wellBracketed depth (cs ++ ds) = true := by
  induction cs generalizing depth with
  | nil =>
    have : depth = 0 := by simpa [wellBracketed] using hc
    rw [this]
    exact hd
  | cons c cs ih =>
    rw [wellBracketed, Bool.and_eq_true] at hc
    rw [List.cons_append, wellBracketed, Bool.and_eq_true]
    exact ⟨hc.1, ih hc.2⟩

theorem wellBracketed_of_notMem {cs : List Char} (ho : '<' ∉ cs) (hc : '>' ∉ cs) (hs : ',' ∉ cs) :
    wellBracketed 0 cs = true := by
  induction cs with
  | nil => rfl
  | cons c cs ih =>
    rw [List.mem_cons, not_or] at ho
    obtain ⟨hoc, ho⟩ := ho
    rw [List.mem_cons, not_or] at hc
    obtain ⟨hcc, hc⟩ := hc
    rw [List.mem_cons, not_or] at hs
    obtain ⟨hsc, hs⟩ := hs
    have hd : depthAfter c 0 = 0 := by
      unfold depthAfter
      rw [if_neg (Ne.symm hoc), if_neg (Ne.symm hcc)]
    rw [wellBracketed, hd, ih ho hc hs]
    simp [Ne.symm hcc, Ne.symm hsc]

/-- Behind the first item, every piece begins with the blank of its separator. -/
theorem pieces_commaSeparated {text : String} {texts : List String}
    (h : ∀ t ∈ text :: texts, wellBracketed 0 t.toList = true) :
    pieces 0 (commaSeparated (text :: texts)).toList =
      text.toList :: texts.map fun t => ' ' :: t.toList := by
  unfold commaSeparated
  induction texts generalizing text with
  | nil =>
    have := pieces_append [] (h text List.mem_cons_self)
    rw [List.append_nil] at this
    simp [joined, this, pieces, extend]
  | cons next texts ih =>
    have hj : (joined ", " (text :: next :: texts)).toList =
        text.toList ++ ',' :: ' ' :: (joined ", " (next :: texts)).toList := by
      have hs : ", ".toList = [',', ' '] := rfl
      rw [joined, String.toList_append, String.toList_append, hs]
      simp
    rw [hj, pieces_append _ (h text List.mem_cons_self), pieces, if_pos ⟨rfl, rfl⟩, pieces,
      if_neg (by decide)]
    have hblank : depthAfter ' ' 0 = 0 := rfl
    rw [hblank, ih fun t ht => h t (List.mem_cons_of_mem text ht)]
    simp [extend]

/-- The items that were written are the items that are read. -/
theorem items_commaSeparated {texts : List String}
    (h : ∀ t ∈ texts, t ≠ "" ∧ wellBracketed 0 t.toList = true) :
    items (commaSeparated texts).toList = texts.map String.toList := by
  cases texts with
  | nil => rfl
  | cons text texts =>
    have hp := pieces_commaSeparated fun t ht => (h t ht).2
    unfold items
    split
    · rename_i hempty
      rw [hempty] at hp
      have hnil : text.toList = [] := (List.cons_eq_cons.mp hp).1.symm
      exact absurd (String.toList_eq_nil_iff.mp hnil) (h text List.mem_cons_self).1
    · rename_i c rest hcons
      rw [← hcons, hp]
      simp [dropBlank]

end RecordBean.Reading
