import Mathlib.Data.List.Chain
import Mathlib.Data.List.DropRight
import RecordBean.Proofs.Path
import RecordBean.SourceFile

/-! # The comment at the top

A header is any text, and it is written into a comment. That comment ends where it is meant to end:
a harmless text brings no star and slash together, cutting the blanks off both ends brings none
together, and a blank stands between the text and either end of the comment. Only blanks are put in
and cut off, so the comment is left out exactly if the header shows nothing. All that stands below
it is the file as it is written without a header. -/

namespace RecordBean.Header
open RecordBean.Text RecordBean.SourceFile

/-! ## Ends of comments -/

/-- What ends a comment. -/
def commentEnd : List Char := ['*', '/']

/-- A text in which no star has a slash behind it. -/
def IsOpen (cs : List Char) : Prop := cs.IsChain fun c d => ¬ (c = '*' ∧ d = '/')

theorem isOpen_iff {cs : List Char} : IsOpen cs ↔ ¬ commentEnd <:+: cs := by
  unfold IsOpen
  rw [List.isChain_iff_forall_rel_of_append_cons_cons]
  constructor
  · rintro h ⟨before, after, he⟩
    exact h (by simpa [commentEnd] using he.symm) ⟨rfl, rfl⟩
  · rintro h c d before after he ⟨rfl, rfl⟩
    exact h ⟨before, after, by simpa [commentEnd] using he.symm⟩

/-- Whether a mark occurs in a text for the first time behind what stands before it. -/
structure IsFirst (mark before text : List Char) : Prop where
  occurs : before ++ mark <+: text
  first : ∀ earlier, earlier ++ mark <+: text → before.length ≤ earlier.length

/-- The comment ends at the first star that is added to an open text with a slash behind it. -/
theorem isFirst_of_isOpen {before : List Char} (after : List Char) (h : IsOpen (before ++ ['*'])) :
    IsFirst commentEnd before (before ++ commentEnd ++ after) := by
  refine ⟨List.prefix_append _ after, fun earlier he => ?_⟩
  by_contra hlt
  have hstar : before ++ ['*'] <+: before ++ commentEnd ++ after :=
    ⟨'/' :: after, by simp [commentEnd]⟩
  have hlength : (earlier ++ commentEnd).length ≤ (before ++ ['*']).length := by
    simp only [commentEnd, List.length_append, List.length_cons, List.length_nil]
    omega
  -- an earlier end would lie within the open text
  have hwithin : earlier ++ commentEnd <+: before ++ ['*'] :=
    List.prefix_of_prefix_length_le he hstar hlength
  exact isOpen_iff.mp h ((List.suffix_append earlier commentEnd).isInfix.trans hwithin.isInfix)

/-! ## Harmless texts -/

theorem head?_harmlessChars (cs : List Char) : (harmlessChars cs).head? = cs.head? := by
  fun_cases harmlessChars cs with
  | case1 => rfl
  | case2 c => rfl
  | case3 c d rest h =>
    rw [h.1]
    rfl
  | case4 c d rest h => rfl

theorem isOpen_harmlessChars (cs : List Char) : IsOpen (harmlessChars cs) := by
  unfold IsOpen
  fun_induction harmlessChars cs with
  | case1 => exact List.isChain_nil
  | case2 c => exact List.isChain_singleton c
  | case3 c d rest h ih =>
    have hslash : ('/' :: harmlessChars rest).IsChain fun c d => ¬ (c = '*' ∧ d = '/') :=
      ih.cons fun _ _ he => absurd he.1 (by decide)
    exact List.isChain_cons_cons.mpr
      ⟨by decide, List.isChain_cons_cons.mpr ⟨by decide, hslash⟩⟩
  | case4 c d rest h ih =>
    refine ih.cons fun e he => ?_
    rw [head?_harmlessChars, List.head?_cons, Option.mem_some_iff] at he
    rw [← he]
    exact h

/-- What a text shows: all that is not blank. -/
def visible (cs : List Char) : List Char := cs.filter (!isBlank ·)

theorem visible_harmlessChars (cs : List Char) : visible (harmlessChars cs) = visible cs := by
  unfold visible
  fun_induction harmlessChars cs with
  | case1 => rfl
  | case2 c => rfl
  | case3 c d rest h ih =>
    obtain ⟨rfl, rfl⟩ := h
    have hstar : isBlank '*' = false := by decide
    have hslash : isBlank '/' = false := by decide
    have hblank : isBlank ' ' = true := by decide
    simp [hstar, hslash, hblank, ih]
  | case4 c d rest h ih => rw [List.filter_cons, List.filter_cons, ih]

/-! ## Trimming -/

theorem trimChars_isInfix (cs : List Char) : trimChars cs <:+: cs :=
  (List.rdropWhile_prefix isBlank _).isInfix.trans (List.dropWhile_suffix isBlank).isInfix

theorem visible_dropWhile (cs : List Char) : visible (cs.dropWhile isBlank) = visible cs := by
  have := Path.filter_dropWhile_not (!isBlank ·) cs
  simp only [Bool.not_not] at this
  exact this

theorem visible_trimChars (cs : List Char) : visible (trimChars cs) = visible cs := by
  have hreverse (ds : List Char) : visible ds.reverse = (visible ds).reverse := List.filter_reverse
  unfold trimChars
  rw [hreverse, visible_dropWhile, hreverse, visible_dropWhile, List.reverse_reverse]

/-- What is trimmed away entirely shows nothing. -/
theorem trimChars_eq_nil_iff {cs : List Char} : trimChars cs = [] ↔ visible cs = [] := by
  constructor
  · intro h
    rw [← visible_trimChars, h]
    rfl
  · intro h
    have hblank : ∀ c ∈ cs, isBlank c = true := by
      simpa [visible, List.filter_eq_nil_iff] using h
    exact List.rdropWhile_eq_nil_iff.mpr fun c hc =>
      hblank c ((List.dropWhile_suffix isBlank).subset hc)

/-- A text is blank exactly if it shows nothing. -/
theorem allBlank_iff {text : String} : allBlank text = true ↔ visible text.toList = [] := by
  simp [allBlank, visible, List.filter_eq_nil_iff]

/-! ## The comment -/

/-- What a comment says for a header. -/
def commentText (header : String) : String := trim (harmless header)

theorem toList_commentText (header : String) :
    (commentText header).toList = trimChars (harmlessChars header.toList) := by
  simp [commentText, trim, harmless]

theorem isOpen_commentText (header : String) : IsOpen (commentText header).toList := by
  rw [toList_commentText, isOpen_iff]
  intro hend
  exact isOpen_iff.mp (isOpen_harmlessChars header.toList) (hend.trans (trimChars_isInfix _))

theorem visible_commentText (header : String) :
    visible (commentText header).toList = visible header.toList := by
  rw [toList_commentText, visible_trimChars, visible_harmlessChars]

theorem isEmpty_commentText (header : String) :
    (commentText header).isEmpty = allBlank header := by
  rw [Bool.eq_iff_iff, String.isEmpty_iff, ← String.toList_eq_nil_iff, toList_commentText,
    trimChars_eq_nil_iff, visible_harmlessChars, allBlank_iff]

theorem printHeader_harmless (header : String) :
    printHeader (harmless header) =
      if allBlank header then "" else "/* " ++ commentText header ++ " */\n" := by
  rw [← isEmpty_commentText]
  rfl

/-- Between its delimiters a comment stays open up to the star of the closing one. -/
theorem isOpen_comment {cs : List Char} (h : IsOpen cs) :
    IsOpen ("/* ".toList ++ cs ++ " ".toList ++ ['*']) := by
  have hopen : IsOpen ("/* ".toList ++ cs) := by
    refine List.isChain_append.mpr ⟨by simp, h, fun c hc _ _ he => ?_⟩
    have hblank : c = ' ' := by simpa using hc.symm
    exact absurd (hblank.symm.trans he.1) (by decide)
  have hclose : IsOpen (" ".toList ++ ['*']) := by simp [IsOpen]
  rw [List.append_assoc]
  refine List.isChain_append.mpr ⟨hopen, hclose, fun _ _ d hd he => ?_⟩
  have hblank : d = ' ' := by simpa using hd.symm
  exact absurd (hblank.symm.trans he.2) (by decide)

/-- The layout depends on the header in one place only. -/
theorem assemble_header (s : Schema) (m : Members) (header other : String) :
    assemble s m other = (assemble s m header).map ({ · with header := harmless other }) := by
  unfold assemble
  cases check s m <;> rfl

/-- Everything below the comment is the same for every header. -/
theorem exists_body {s : Schema} {m : Members} {header text : String}
    (h : render s m header = .ok text) :
    ∃ body, ∀ other, render s m other = .ok (printHeader (harmless other) ++ body) := by
  unfold render at h ⊢
  cases hf : assemble s m header with
  | error e =>
    rw [hf] at h
    cases h
  | ok f =>
    refine ⟨printBody f, fun other => ?_⟩
    rw [assemble_header s m header other, hf]
    rfl

/-- A blank header changes nothing. Any other one puts a comment in front of the file as it is
without a header: it says what the header shows, it holds no end of a comment, and the first such
end in the source is its own. -/
theorem header_contained {s : Schema} {m : Members} {header text : String}
    (h : render s m header = .ok text) :
    ∃ plain, render s m "" = .ok plain ∧
      (allBlank header = true → text = plain) ∧
      (allBlank header = false → ∃ comment : String,
        text = "/* " ++ comment ++ " */" ++ "\n" ++ plain ∧
        ¬ commentEnd <:+: comment.toList ∧
        IsFirst commentEnd ("/* " ++ comment ++ " ").toList text.toList ∧
        visible comment.toList = visible header.toList) := by
  obtain ⟨body, hbody⟩ := exists_body h
  have htext : text = printHeader (harmless header) ++ body :=
    (Except.ok.inj ((hbody header).symm.trans h)).symm
  have hplain : render s m "" = .ok body := by
    rw [hbody ""]
    exact congrArg _ String.empty_append
  refine ⟨body, hplain, fun hblank => ?_, fun hshown => ?_⟩
  · rw [htext, printHeader_harmless, if_pos hblank, String.empty_append]
  · have hlist : text = "/* " ++ commentText header ++ " */" ++ "\n" ++ body := by
      rw [htext, printHeader_harmless, hshown]
      apply String.toList_injective
      simp
    have hcut : text.toList = ("/* " ++ commentText header ++ " ").toList ++ commentEnd
        ++ ("\n" ++ body).toList := by
      rw [hlist]
      simp [commentEnd]
    have hopen := isOpen_commentText header
    refine ⟨commentText header, hlist, isOpen_iff.mp hopen, ?_, visible_commentText header⟩
    rw [hcut]
    refine isFirst_of_isOpen _ ?_
    rw [String.toList_append, String.toList_append]
    exact isOpen_comment hopen

/-- A record without components. -/
def token : Schema where
  qualifiedName := "Token"
  simpleName := "Token"
  packageName := none
  visibility := .public
  fields := []
  extraAnnotations := []
  extraInterfaces := []

/-- A header that tries to end the comment and to open another one. -/
def intruding : String := " */ class Other; /**/ \n"

theorem intruding_contained :
    ∃ text plain, render token (Members.of token) intruding = .ok text ∧
      render token (Members.of token) "" = .ok plain ∧ allBlank intruding = false ∧
      ∃ comment : String, text = "/* " ++ comment ++ " */" ++ "\n" ++ plain ∧
        IsFirst commentEnd ("/* " ++ comment ++ " ").toList text.toList := by
  obtain ⟨text, h⟩ : ∃ text, render token (Members.of token) intruding = .ok text := ⟨_, rfl⟩
  have hshown : allBlank intruding = false := by decide
  obtain ⟨plain, hplain, _, hcomment⟩ := header_contained h
  obtain ⟨comment, htext, _, hfirst, _⟩ := hcomment hshown
  exact ⟨text, plain, h, hplain, hshown, comment, htext, hfirst⟩

end RecordBean.Header
