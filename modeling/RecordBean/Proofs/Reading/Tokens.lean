import Mathlib.Data.List.SplitBy
import RecordBean.Proofs.Reading

/-! # Tokens

The words and signs of printed code, with the blank space left out. Word characters that stand side
by side belong together, and so do the two characters of `==`, `||` and `&&`; any other character is
a token of its own. A text can be cut wherever no two characters belong together, so the tokens of
a line are put together from those of its fixed parts and of the words between them. -/

namespace RecordBean.Reading
open RecordBean.Text RecordBean.Member

/-- The signs that stand doubled in an operator. -/
def isDoubled (c : Char) : Bool := "=|&".toList.contains c

/-- Whether two neighbouring characters belong to one token. -/
def glues (c d : Char) : Bool := isWordChar c && isWordChar d || c == d && isDoubled c

def isSpace (token : String) : Bool := token == " " || token == "\n"

/-- The tokens of a text. -/
def tokens (text : String) : List String :=
  ((text.toList.splitBy glues).map String.ofList).filter (!isSpace ·)

/-- A character that belongs to no other. -/
def isLone (c : Char) : Bool := !isWordChar c && !isDoubled c

/-- Whether a text belongs to nothing that stands in front of it. -/
def startsApart (text : String) : Bool := text.toList.head?.any isLone

/-- Whether a text belongs to nothing that stands behind it. -/
def endsApart (text : String) : Bool := text.toList.getLast?.any isLone

theorem glues_of_isLone {c d : Char} (h : isLone c = true) :
    glues c d = false ∧ glues d c = false := by
  simp only [isLone, Bool.and_eq_true, Bool.not_eq_true'] at h
  obtain ⟨hword, hdoubled⟩ := h
  constructor
  · simp [glues, hword, hdoubled]
  · by_cases he : d = c
    · simp [glues, hword, hdoubled, he]
    · simp [glues, hword, he]

theorem tokens_append {a b : String}
    (h : ∀ c ∈ a.toList.getLast?, ∀ d ∈ b.toList.head?, glues c d = false) :
    tokens (a ++ b) = tokens a ++ tokens b := by
  unfold tokens
  rw [String.toList_append, List.splitBy_append h, List.map_append, List.filter_append]

theorem ne_of_isWord {word sign : String} (h : IsWord word.toList) (hs : ¬ IsWord sign.toList) :
    sign ≠ word := by
  rintro rfl
  exact hs h

theorem tokens_word {word : String} (h : IsWord word.toList) : tokens word = [word] := by
  have hchain : word.toList.IsChain fun c d => glues c d = true := by
    refine List.Pairwise.isChain (List.pairwise_of_forall_mem_list ?_)
    intro c hc d hd
    simp [glues, h.of_mem hc, h.of_mem hd]
  have hspace : isSpace word = false := by
    have hblank : " " ≠ word := ne_of_isWord h (by decide)
    have hfeed : "\n" ≠ word := ne_of_isWord h (by decide)
    simp [isSpace, hblank.symm, hfeed.symm]
  unfold tokens
  rw [List.splitBy_of_isChain h.1 hchain]
  simp [hspace]

theorem tokens_endsApart {a : String} (h : endsApart a = true) (b : String) :
    tokens (a ++ b) = tokens a ++ tokens b := by
  apply tokens_append
  intro c hc d _
  have hlast : isLone c = true := by
    rw [endsApart, Option.mem_def.mp hc] at h
    exact h
  exact (glues_of_isLone hlast).1

theorem tokens_startsApart {a : String} (h : startsApart a = true) (before b : String) :
    tokens (before ++ (a ++ b)) = tokens before ++ tokens (a ++ b) := by
  apply tokens_append
  intro c _ d hd
  have hfirst : isLone d = true := by
    unfold startsApart at h
    cases hlist : a.toList with
    | nil =>
      rw [hlist] at h
      cases h
    | cons first rest =>
      rw [hlist] at h
      rw [String.toList_append, hlist] at hd
      rw [← Option.some.inj (Option.mem_def.mp hd)]
      exact h
  exact (glues_of_isLone hfirst).2

theorem tokens_word_append {word a : String} (hw : IsWord word.toList) (h : startsApart a = true)
    (b : String) : tokens (word ++ (a ++ b)) = word :: tokens (a ++ b) := by
  rw [tokens_startsApart h, tokens_word hw, List.singleton_append]

theorem tokens_unlines (ls : List String) : tokens (unlines ls) = ls.flatMap tokens := by
  induction ls with
  | nil => rfl
  | cons l ls ih =>
    have hempty : tokens "\n" = [] := by decide
    rw [unlines, String.append_assoc, tokens_startsApart (by decide), tokens_endsApart (by decide),
      hempty, List.nil_append, ih, List.flatMap_cons]

theorem tokens_commaSeparated (text : String) (texts : List String) :
    tokens (commaSeparated (text :: texts)) =
      tokens text ++ texts.flatMap fun t => "," :: tokens t := by
  have hcomma : tokens ", " = [","] := by decide
  unfold commaSeparated
  induction texts generalizing text with
  | nil => rw [joined, List.flatMap_nil, List.append_nil]
  | cons next texts ih =>
    rw [joined, String.append_assoc, tokens_startsApart (by decide), tokens_endsApart (by decide),
      hcomma, ih, List.flatMap_cons]
    rfl

/-- The parts of a list of tokens between which a sign stands are the parts at which it is split. -/
theorem splitOn_flatMap {α : Type} [BEq α] [LawfulBEq α] {sign : α} {first : List α}
    {parts : List (List α)} (hf : sign ∉ first) (hp : ∀ part ∈ parts, sign ∉ part) :
    (first ++ parts.flatMap (sign :: ·)).splitOn sign = first :: parts := by
  induction parts generalizing first with
  | nil => rw [List.flatMap_nil, List.append_nil, List.splitOn_eq_singleton hf]
  | cons part parts ih =>
    obtain ⟨hpart, hrest⟩ := List.forall_mem_cons.mp hp
    rw [List.flatMap_cons, List.cons_append, List.splitOn_append_cons_self_of_not_mem hf,
      ih hpart hrest]

end RecordBean.Reading
