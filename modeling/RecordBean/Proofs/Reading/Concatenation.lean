import RecordBean.Proofs.Layout
import RecordBean.Proofs.Reading.Tokens

/-! # Reading a concatenation

What `toString` returns is a sum of literal texts and fields, which is read line by line. The quotes
of a line take it apart into code and literals by turns: the code is read by its tokens, and a
literal is taken as it stands, so one with a backslash is refused. The first operand has to be a
literal, since only then does every `+` join texts. -/

namespace RecordBean.Reading
open RecordBean.Text RecordBean.Member

/-! ## Lexemes -/

/-- A token of code, or a literal between quotes. -/
inductive Lexeme where
  | code (token : String)
  | literal (text : String)
deriving DecidableEq, Repr

/-- The lexemes of a text of code without literals. -/
def lexCode (code : List Char) : List Lexeme := (tokens (String.ofList code)).map .code

/-- The lexemes of a line that is taken apart at its quotes. A literal that is not closed is
refused. -/
def lexPieces : List (List Char) → Option (List Lexeme)
  | [] => none
  | [code] => some (lexCode code)
  | code :: text :: rest =>
    if '\\' ∈ text then none
    else (lexPieces rest).map (lexCode code ++ .literal (String.ofList text) :: ·)

def lexLine (line : List Char) : Option (List Lexeme) := lexPieces (Path.splitChars '"' line)

def lexLines : List (List Char) → Option (List Lexeme)
  | [] => some []
  | line :: rest => do
    let first ← lexLine line
    let others ← lexLines rest
    some (first ++ others)

theorem lexLine_code {code : String} (h : '"' ∉ code.toList) :
    lexLine code.toList = some ((tokens code).map .code) := by
  unfold lexLine
  rw [Path.splitChars_of_notMem h, lexPieces, lexCode, String.ofList_toList]

/-- Code, a literal, and what follows it on the line. -/
theorem lexLine_literal {code text rest : String} {others : List Lexeme} (hc : '"' ∉ code.toList)
    (ht : '"' ∉ text.toList) (he : '\\' ∉ text.toList) (hr : lexLine rest.toList = some others) :
    lexLine (code ++ "\"" ++ text ++ "\"" ++ rest).toList =
      some ((tokens code).map .code ++ .literal text :: others) := by
  have hline : (code ++ "\"" ++ text ++ "\"" ++ rest).toList =
      code.toList ++ '"' :: (text.toList ++ '"' :: rest.toList) := by
    simp
  unfold lexLine at hr ⊢
  rw [hline, Path.splitChars_append, Path.splitChars_append, Path.splitChars_of_notMem hc,
    Path.splitChars_of_notMem ht, List.singleton_append, List.singleton_append, lexPieces,
    if_neg he, hr, Option.map_some, lexCode, String.ofList_toList, String.ofList_toList]

theorem lexLines_append {a b : List (List Char)} {x y : List Lexeme} (ha : lexLines a = some x)
    (hb : lexLines b = some y) : lexLines (a ++ b) = some (x ++ y) := by
  induction a generalizing x with
  | nil =>
    rw [← Option.some.inj ha]
    exact hb
  | cons line rest ih =>
    rw [lexLines] at ha
    obtain ⟨first, hfirst, ha⟩ := Option.bind_eq_some_iff.mp ha
    obtain ⟨others, hothers, ha⟩ := Option.bind_eq_some_iff.mp ha
    rw [List.cons_append, lexLines, hfirst, ih hothers, ← Option.some.inj ha, List.append_assoc]
    rfl

theorem lexLines_singleton {line : List Char} {ls : List Lexeme} (h : lexLine line = some ls) :
    lexLines [line] = some ls := by
  rw [lexLines, h]
  simp [lexLines]

/-! ## Operands -/

/-- An operand of a concatenation. -/
inductive Part where
  | literal (text : String)
  | field (name : String)
deriving DecidableEq, Repr

namespace Part

/-- How an operand is written. -/
def lexemes : Part → List Lexeme
  | .literal text => [.literal text]
  | .field name => [.code "this", .code ".", .code name]

end Part

def readPart : List Lexeme → Option Part
  | [.literal text] => some (.literal text)
  | [.code "this", .code ".", .code name] => some (.field name)
  | _ => none

/-- Operands with `+` between them, of which the first is a literal. -/
def readConcatenation (ls : List Lexeme) : Option (List Part) := do
  let parts ← (ls.splitOn (.code "+")).mapM readPart
  match parts with
  | .literal text :: others => some (.literal text :: others)
  | _ => none

/-- What stands in front of the operands. -/
def opening : List Lexeme :=
  ["@", "Override", "public", "String", "toString", "(", ")", "\x7b", "return"].map .code

/-- What stands behind the operands. -/
def ending : List Lexeme := [";", "\x7d"].map .code

/-- What the only statement of `toString` returns. -/
def readToString (text : String) : Option (List Part) := do
  let ls ← lexLines (lines text)
  let ls ← ls.dropPrefix? opening
  let ls ← ls.dropSuffix? ending
  readConcatenation ls

theorem readPart_lexemes (p : Part) : readPart p.lexemes = some p := by
  cases p <;> rfl

/-- Operands that are added to something in front of them. -/
def added (parts : List Part) : List Lexeme :=
  (parts.map Part.lexemes).flatMap (.code "+" :: ·)

@[simp] theorem added_nil : added [] = [] := rfl

@[simp] theorem added_cons (p : Part) (parts : List Part) :
    added (p :: parts) = .code "+" :: (p.lexemes ++ added parts) := rfl

@[simp] theorem added_append (a b : List Part) : added (a ++ b) = added a ++ added b := by
  unfold added
  rw [List.map_append, List.flatMap_append]

/-- The operands that were written are the operands that are read. -/
theorem readConcatenation_added {text : String} {parts : List Part}
    (h : ∀ p ∈ parts, Lexeme.code "+" ∉ p.lexemes) :
    readConcatenation (.literal text :: added parts) = some (.literal text :: parts) := by
  have hliteral : Lexeme.code "+" ∉ [Lexeme.literal text] := by simp
  have hlexemes : ∀ ls ∈ parts.map Part.lexemes, Lexeme.code "+" ∉ ls := List.forall_mem_map.mpr h
  have hsplit := splitOn_flatMap hliteral hlexemes
  rw [List.singleton_append] at hsplit
  have hparts : (parts.map Part.lexemes).mapM readPart = some (parts.map id) :=
    mapM_map_eq_some fun p _ => readPart_lexemes p
  have hfirst : readPart [Lexeme.literal text] = some (.literal text) := rfl
  unfold readConcatenation added
  rw [hsplit, List.mapM_cons, hfirst, hparts, List.map_id]
  rfl

/-! ## The operands of a bean -/

/-- For every field its name and its value, with a separator between neighbours. -/
def shownParts : List Field → List Part
  | [] => []
  | [f] => [.literal (f.name ++ "="), .field f.name]
  | f :: g :: rest =>
    [.literal (f.name ++ "="), .field f.name, .literal ", "] ++ shownParts (g :: rest)

/-- What the `toString` of a bean joins behind its first operand. -/
def partsOf (fields : List Field) (names : TypeNames) : List Part :=
  if fields.isEmpty then [.literal (names.bean ++ "[]")]
  else .literal (names.bean ++ "[") :: (shownParts fields ++ [.literal "]"])

/-- A text between quotes that a name begins stands for itself. -/
theorem notMem_literal {name text : String} (h : IsWord name.toList) {c : Char}
    (hw : isWordChar c = false) (ht : c ∉ text.toList) : c ∉ (name ++ text).toList := by
  rw [String.toList_append, List.mem_append, not_or]
  exact ⟨h.notMem hw, ht⟩

theorem lexLine_named (code text : String) {name rest : String} {others : List Lexeme}
    (hc : '"' ∉ code.toList) (hn : IsWord name.toList) (hq : '"' ∉ text.toList)
    (he : '\\' ∉ text.toList) (hr : lexLine rest.toList = some others) :
    lexLine (code ++ "\"" ++ (name ++ text) ++ "\"" ++ rest).toList =
      some ((tokens code).map .code ++ .literal (name ++ text) :: others) :=
  lexLine_literal hc (notMem_literal hn (by decide) hq) (notMem_literal hn (by decide) he) hr

section
variable {f : Field} (h : IsWord f.name.toList)
include h

theorem lexLine_shownField : lexLine (shownField f).toList =
    some (added [.literal (f.name ++ "="), .field f.name]) := by
  have hrest : lexLine (" + this." ++ f.name).toList =
      some [.code "+", .code "this", .code ".", .code f.name] := by
    have hopen : tokens " + this." = ["+", "this", "."] := by decide
    have hquote : '"' ∉ (" + this." ++ f.name).toList := by
      simpa using h.notMem (c := '"') (by decide)
    rw [lexLine_code hquote, tokens_endsApart (by decide), hopen, tokens_word h]
    rfl
  have hcode : tokens "      + " = ["+"] := by decide
  have hline : shownField f =
      "      + " ++ "\"" ++ (f.name ++ "=") ++ "\"" ++ (" + this." ++ f.name) := by
    apply String.toList_injective
    simp [shownField, Member.inner]
  rw [hline, lexLine_named _ _ (by decide) h (by decide) (by decide) hrest, hcode]
  rfl

theorem lexLine_separated : lexLine (shownField f ++ " + \", \"").toList =
    some (added [.literal (f.name ++ "="), .field f.name, .literal ", "]) := by
  have hend : lexLine "".toList = some [] := by decide
  have hopen : tokens " + this." = ["+", "this", "."] := by decide
  have hplus : tokens (" + " ++ "") = ["+"] := by decide
  have hquote : '"' ∉ (" + this." ++ (f.name ++ (" + " ++ ""))).toList := by
    simpa using h.notMem (c := '"') (by decide)
  have hcomma : '"' ∉ ", ".toList := by decide
  have hrest := lexLine_literal hquote hcomma (by decide) hend
  rw [tokens_endsApart (by decide), hopen, tokens_word_append h (by decide), hplus] at hrest
  have hcode : tokens "      + " = ["+"] := by decide
  have hline : shownField f ++ " + \", \"" =
      "      + " ++ "\"" ++ (f.name ++ "=") ++ "\""
        ++ (" + this." ++ (f.name ++ (" + " ++ "")) ++ "\"" ++ ", " ++ "\"" ++ "") := by
    apply String.toList_injective
    simp [shownField, Member.inner]
  rw [hline, lexLine_named _ _ (by decide) h (by decide) (by decide) hrest, hcode]
  rfl

end

theorem lexLines_shownFieldLines {fields : List Field} (hn : ∀ f ∈ fields, IsWord f.name.toList) :
    lexLines ((shownFieldLines fields).map String.toList) = some (added (shownParts fields)) := by
  fun_induction shownFieldLines fields with
  | case1 => rfl
  | case2 f => exact lexLines_singleton (lexLine_shownField (hn f List.mem_cons_self))
  | case3 f g rest ih =>
    have hfirst := lexLine_separated (hn f List.mem_cons_self)
    have hothers := ih fun k hk => hn k (List.mem_cons_of_mem f hk)
    rw [List.map_cons, shownParts, added_append, ← List.singleton_append]
    exact lexLines_append (lexLines_singleton hfirst) hothers

/-- An operand of a bean holds no sign of addition. -/
theorem notMem_lexemes {fields : List Field} (hn : ∀ f ∈ fields, IsWord f.name.toList) :
    ∀ p ∈ shownParts fields ++ [.literal "]"], Lexeme.code "+" ∉ p.lexemes := by
  have hfield : ∀ f ∈ fields, Lexeme.code "+" ∉ (Part.field f.name).lexemes := by
    intro f hf hm
    have hplus : "+" ≠ f.name := ne_of_isWord (hn f hf) (by decide)
    simp [Part.lexemes, hplus] at hm
  have hliteral (text : String) : Lexeme.code "+" ∉ (Part.literal text).lexemes := by
    simp [Part.lexemes]
  have hshown : ∀ p ∈ shownParts fields, Lexeme.code "+" ∉ p.lexemes := by
    clear hn
    fun_induction shownParts fields with
    | case1 => simp
    | case2 f => simp [hliteral, hfield f List.mem_cons_self]
    | case3 f g rest ih =>
      rw [List.forall_mem_cons] at hfield
      simp only [List.forall_mem_append, List.forall_mem_cons, List.not_mem_nil, false_implies,
        implies_true, and_true]
      exact ⟨⟨hliteral _, hfield.1, hliteral _⟩, ih hfield.2⟩
  simp only [List.forall_mem_append, List.forall_mem_cons, List.not_mem_nil, false_implies,
    implies_true, and_true]
  exact ⟨hshown, hliteral _⟩

/-- The statement of `toString` returns the operands of the bean, the first of them a literal. -/
theorem lexLines_shownLines {fields : List Field} {names : TypeNames}
    (hb : IsWord names.bean.toList) (hn : ∀ f ∈ fields, IsWord f.name.toList) :
    ∃ first others, partsOf fields names = .literal first :: others ∧
      (∀ p ∈ others, Lexeme.code "+" ∉ p.lexemes) ∧
      lexLines ((shownLines fields names).map String.toList) =
        some (.code "return" :: .literal first :: added others ++ [.code ";"]) := by
  have hcode : tokens "    return " = ["return"] := by decide
  unfold partsOf shownLines
  cases fields.isEmpty with
  | true =>
    have hrest : lexLine ";".toList = some [.code ";"] := by decide
    have hline : Member.inner ("return \"" ++ names.bean ++ "[]\";") =
        "    return " ++ "\"" ++ (names.bean ++ "[]") ++ "\"" ++ ";" := by
      apply String.toList_injective
      simp [Member.inner]
    have hlex := lexLine_named "    return " "[]" (by decide) hb (by decide) (by decide) hrest
    rw [hcode, ← hline] at hlex
    exact ⟨_, [], rfl, by simp, lexLines_singleton hlex⟩
  | false =>
    have hrest : lexLine "".toList = some [] := by decide
    have hline : Member.inner ("return \"" ++ names.bean ++ "[\"") =
        "    return " ++ "\"" ++ (names.bean ++ "[") ++ "\"" ++ "" := by
      apply String.toList_injective
      simp [Member.inner]
    have hlex := lexLine_named "    return " "[" (by decide) hb (by decide) (by decide) hrest
    rw [hcode, ← hline] at hlex
    have hend : lexLines [(Member.inner "  + \"]\";").toList] =
        some (added [.literal "]"] ++ [.code ";"]) := by decide
    have hall := lexLines_append
      (lexLines_append (lexLines_singleton hlex) (lexLines_shownFieldLines hn)) hend
    refine ⟨_, _, rfl, notMem_lexemes hn, ?_⟩
    rw [if_neg Bool.false_ne_true, added_append]
    simpa using hall

/-- The operands that were written are the operands that are read. -/
theorem readToString_toString {fields : List Field} {names : TypeNames}
    (hb : IsWord names.bean.toList) (hn : ∀ f ∈ fields, IsWord f.name.toList) :
    readToString (Member.toString fields names) = some (partsOf fields names) := by
  obtain ⟨first, others, hparts, hplus, hshown⟩ := lexLines_shownLines hb hn
  have hopen : lexLines ([outer "@Override", outer "public String toString() \x7b"].map
      String.toList) = some (["@", "Override", "public", "String", "toString", "(", ")",
        "\x7b"].map .code) := by decide
  have hclose : lexLines [close.toList, []] = some [.code "\x7d"] := by decide
  have hlines : lines (Member.toString fields names) =
      ([outer "@Override", outer "public String toString() \x7b"].map String.toList
        ++ (shownLines fields names).map String.toList) ++ [close.toList, []] := by
    unfold Member.toString
    rw [lines_unlines (SourceFile.oneLine_toStringLines (hb.notMem (by decide)) hn), toStringLines,
      List.map_append, List.map_append, List.append_assoc]
    rfl
  have hall : lexLines (lines (Member.toString fields names)) =
      some (opening ++ ((.literal first :: added others) ++ ending)) := by
    rw [hlines, lexLines_append (lexLines_append hopen hshown) hclose]
    simp [opening, ending]
  unfold readToString
  rw [hall]
  simp only [Option.bind_eq_bind, Option.bind_some, dropPrefix?_append, dropSuffix?_append]
  rw [readConcatenation_added hplus, hparts]

end RecordBean.Reading
