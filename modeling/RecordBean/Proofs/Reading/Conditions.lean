import RecordBean.Proofs.Reading.Storage
import RecordBean.Proofs.Reading.Tokens

/-! # Reading conditions

The two methods by which beans are compared, read from their tokens. What `equals` returns is a
condition: alternatives of conjunctions of single tests, where a conjunction may stand in
parentheses. What `hashCode` returns is a call of `Objects.hash`. The reader covers no more than that
and refuses every other text, so what it accepts means the same in the language of the text. -/

namespace RecordBean.Reading
open RecordBean.Text RecordBean.Member

/-! ## Readers -/

/-- What a test can be about. -/
inductive Operand where
  /-- The object whose method runs. -/
  | self
  /-- The object that a variable names. -/
  | named (name : String)
  /-- A field of the object whose method runs. -/
  | field (name : String)
  /-- A call without arguments on the object that a variable names. -/
  | call (name method : String)
deriving DecidableEq, Repr

inductive Test where
  /-- `left == right` -/
  | same (left right : Operand)
  /-- `object instanceof type name`, where the object is also known by the name from then on. -/
  | isA (object type name : String)
deriving DecidableEq, Repr

/-- The two methods: a condition, by its alternatives, and the arguments of a hash. -/
structure Equality where
  alternatives : List (List Test)
  hashed : List Operand
deriving DecidableEq, Repr

def readOperand : List String → Option Operand
  | ["this"] => some .self
  | [name] => some (.named name)
  | ["this", ".", name] => some (.field name)
  | [name, ".", method, "(", ")"] => some (.call name method)
  | _ => none

def readTest (ts : List String) : Option Test :=
  match ts.splitOn "==" with
  | [[object, "instanceof", type, name]] => some (.isA object type name)
  | [left, right] => do
    let left ← readOperand left
    let right ← readOperand right
    some (.same left right)
  | _ => none

/-- Tests with `&&` between them, in parentheses or not. -/
def readConjunction (ts : List String) : Option (List Test) :=
  match ts with
  | "(" :: rest => (rest.dropSuffix? [")"]).bind fun inner => (inner.splitOn "&&").mapM readTest
  | _ => (ts.splitOn "&&").mapM readTest

/-- Conjunctions with `||` between them, which binds weaker. -/
def readCondition (ts : List String) : Option (List (List Test)) :=
  (ts.splitOn "||").mapM readConjunction

/-- The arguments of a call of `Objects.hash`. -/
def readHashed (ts : List String) : Option (List Operand) := do
  let list ← ts.dropPrefix? ["Objects", ".", "hash", "("]
  let list ← list.dropSuffix? [")"]
  if list.isEmpty then some [] else (list.splitOn ",").mapM readOperand

/-- What a method returns that has the given signature and no other statement. -/
def readReturn (signature ts : List String) : Option (List String) :=
  match ts.splitOn "\x7b" with
  | [opening, body] =>
    if opening = signature then
      (body.dropPrefix? ["return"]).bind (·.dropSuffix? [";"])
    else none
  | _ => none

def equalsSignature : List String :=
  ["@", "Override", "public", "boolean", "equals", "(", "Object", "other", ")"]

def hashCodeSignature : List String := ["@", "Override", "public", "int", "hashCode", "(", ")"]

/-- A text that consists of the two methods. -/
def readEquality (text : String) : Option Equality :=
  match (tokens text).splitOn "\x7d" with
  | [equals, hashCode, []] => do
    let condition ← readReturn equalsSignature equals
    let call ← readReturn hashCodeSignature hashCode
    let alternatives ← readCondition condition
    let hashed ← readHashed call
    some ⟨alternatives, hashed⟩
  | _ => none

/-! ## The tokens of the two methods -/

section
variable {fields : List Field} {names : TypeNames}

/-- The tokens of the test by which a field is compared. -/
def comparisonTokens (names : TypeNames) (f : Field) : List String :=
  ["this", ".", f.name, "==", otherName names, ".", f.getter, "(", ")"]

theorem isWord_otherName (hb : IsWord names.bean.toList) : IsWord (otherName names).toList := by
  have hother : IsWord "other".toList := by decide
  unfold otherName
  rw [String.toList_append]
  exact hother.append fun c hc => hb.of_mem hc

theorem tokens_comparison {f : Field} (hb : IsWord names.bean.toList) (hn : IsWord f.name.toList) :
    tokens (comparison names f) = "&&" :: comparisonTokens names f := by
  have hline : comparison names f = "        && this." ++ (f.name ++ (" == " ++ (otherName names ++
      ("." ++ (f.getter ++ ("()" ++ "")))))) := by
    apply String.toList_injective
    simp [comparison, Member.inner]
  have hopen : tokens "        && this." = ["&&", "this", "."] := by decide
  have hequal : tokens " == " = ["=="] := by decide
  have hdot : tokens "." = ["."] := by decide
  have hcall : tokens "()" = ["(", ")"] := by decide
  have hempty : tokens "" = [] := rfl
  rw [hline, tokens_endsApart (by decide), hopen, tokens_word_append hn (by decide),
    tokens_endsApart (by decide), hequal, tokens_word_append (isWord_otherName hb) (by decide),
    tokens_endsApart (by decide), hdot, tokens_word_append (isWord_getter hn) (by decide),
    tokens_endsApart (by decide), hcall, hempty]
  rfl

/-- The tokens of the test for the class of the other object. -/
def instanceTokens (names : TypeNames) : List String :=
  ["other", "instanceof", names.bean, otherName names]

/-- The tokens of the conjunction in `equals`. -/
def conjunctionTokens (fields : List Field) (names : TypeNames) : List String :=
  instanceTokens names ++ (fields.map (comparisonTokens names)).flatMap ("&&" :: ·)

/-- The tokens of the condition in `equals`. -/
def conditionTokens (fields : List Field) (names : TypeNames) : List String :=
  ["this", "==", "other"] ++ "||" :: "(" :: (conjunctionTokens fields names ++ [")"])

theorem tokens_equalsLines (hb : IsWord names.bean.toList)
    (hn : ∀ f ∈ fields, IsWord f.name.toList) :
    (equalsLines fields names).flatMap tokens =
      (equalsSignature ++ "\x7b" :: ("return" :: conditionTokens fields names ++ [";"]))
        ++ ["\x7d"] := by
  have hoverride : tokens (outer "@Override") = ["@", "Override"] := by decide
  have hopen : tokens (outer "public boolean equals(Object other) \x7b") =
      ["public", "boolean", "equals", "(", "Object", "other", ")", "\x7b"] := by decide
  have hreturn : tokens (Member.inner "return this == other || (") =
      ["return", "this", "==", "other", "||", "("] := by decide
  have hinstance : tokens (Member.inner ("  other instanceof " ++ names.bean ++ " "
      ++ otherName names)) = instanceTokens names := by
    have hline : Member.inner ("  other instanceof " ++ names.bean ++ " " ++ otherName names) =
        "      other instanceof " ++ (names.bean ++ (" " ++ otherName names)) := by
      apply String.toList_injective
      simp [Member.inner]
    have hother : tokens "      other instanceof " = ["other", "instanceof"] := by decide
    have hblank : tokens " " = [] := by decide
    rw [hline, tokens_endsApart (by decide), hother, tokens_word_append hb (by decide),
      tokens_endsApart (by decide), hblank, tokens_word (isWord_otherName hb)]
    rfl
  have hend : tokens (Member.inner ");") = [")", ";"] := by decide
  have hclose : tokens close = ["\x7d"] := by decide
  have hcomparisons : (fields.map (comparison names)).flatMap tokens =
      (fields.map (comparisonTokens names)).flatMap ("&&" :: ·) := by
    rw [List.flatMap_map, List.flatMap_map]
    exact List.flatMap_congr fun f hf => tokens_comparison hb (hn f hf)
  unfold equalsLines
  simp only [List.flatMap_append, List.flatMap_cons, List.flatMap_nil, hoverride, hopen, hreturn,
    hinstance, hcomparisons, hend, hclose]
  simp [equalsSignature, conditionTokens, conjunctionTokens]

/-- The tokens of an argument of `Objects.hash`. -/
def argumentTokens (f : Field) : List String := ["this", ".", f.name]

/-- The tokens of all its arguments. -/
def argumentsTokens : List Field → List String
  | [] => []
  | f :: rest => argumentTokens f ++ (rest.map argumentTokens).flatMap ("," :: ·)

/-- The tokens of the call in `hashCode`. -/
def hashTokens (fields : List Field) : List String :=
  ["Objects", ".", "hash", "("] ++ (argumentsTokens fields ++ [")"])

theorem tokens_hashCodeLines (hn : ∀ f ∈ fields, IsWord f.name.toList) :
    (hashCodeLines fields).flatMap tokens =
      (hashCodeSignature ++ "\x7b" :: ("return" :: hashTokens fields ++ [";"])) ++ ["\x7d"] := by
  have hoverride : tokens (outer "@Override") = ["@", "Override"] := by decide
  have hopen : tokens (outer "public int hashCode() \x7b") =
      ["public", "int", "hashCode", "(", ")", "\x7b"] := by decide
  have hclose : tokens close = ["\x7d"] := by decide
  have hthis : tokens "this." = ["this", "."] := by decide
  have hfield : ∀ f ∈ fields, tokens ("this." ++ f.name) = argumentTokens f := by
    intro f hf
    rw [tokens_endsApart (by decide), hthis, tokens_word (hn f hf)]
    rfl
  have hlist :
      tokens (commaSeparated (fields.map ("this." ++ ·.name))) = argumentsTokens fields := by
    cases fields with
    | nil => rfl
    | cons f rest =>
      obtain ⟨hf, hrest⟩ := List.forall_mem_cons.mp hfield
      rw [List.map_cons, tokens_commaSeparated, hf, argumentsTokens, List.flatMap_map,
        List.flatMap_map]
      congr 1
      exact List.flatMap_congr fun g hg => congrArg ("," :: ·) (hrest g hg)
  have hcall : tokens (Member.inner ("return Objects.hash("
      ++ commaSeparated (fields.map ("this." ++ ·.name)) ++ ");")) =
        "return" :: hashTokens fields ++ [";"] := by
    have hline : Member.inner ("return Objects.hash("
        ++ commaSeparated (fields.map ("this." ++ ·.name)) ++ ");") =
        "    return Objects.hash(" ++ (commaSeparated (fields.map ("this." ++ ·.name))
          ++ (");" ++ "")) := by
      apply String.toList_injective
      simp [Member.inner]
    have hopen : tokens "    return Objects.hash(" = ["return", "Objects", ".", "hash", "("] := by
      decide
    have hend : tokens ");" = [")", ";"] := by decide
    have hempty : tokens "" = [] := rfl
    rw [hline, tokens_endsApart (by decide), hopen, tokens_startsApart (by decide), hlist,
      tokens_endsApart (by decide), hend, hempty]
    simp [hashTokens]
  unfold hashCodeLines
  simp only [List.flatMap_cons, List.flatMap_nil, hoverride, hopen, hcall, hclose]
  simp [hashCodeSignature]

end

/-! ## The two methods, read back -/

/-- The methods of a bean: `equals` compares all fields of two beans, each by its name on one side
and by its getter on the other, and `hashCode` hashes all fields. -/
def equalityOf (fields : List Field) (names : TypeNames) : Equality where
  alternatives := [
    [.same .self (.named "other")],
    .isA "other" names.bean (otherName names) ::
      fields.map fun f => .same (.field f.name) (.call (otherName names) f.getter)]
  hashed := fields.map fun f => .field f.name

section
variable {fields : List Field} {names : TypeNames} {sign : String}

theorem notMem_comparisonTokens {f : Field} (hw : ¬ IsWord sign.toList)
    (hs : sign ∉ ["==", ".", "(", ")"]) (hb : IsWord names.bean.toList)
    (hn : IsWord f.name.toList) :
    sign ∉ comparisonTokens names f := by
  have hthis : sign ≠ "this" := ne_of_isWord (by decide) hw
  have hname : sign ≠ f.name := ne_of_isWord hn hw
  have hother : sign ≠ otherName names := ne_of_isWord (isWord_otherName hb) hw
  have hgetter : sign ≠ f.getter := ne_of_isWord (isWord_getter hn) hw
  simp only [List.mem_cons, List.not_mem_nil, or_false, not_or] at hs
  simp [comparisonTokens, hthis, hname, hother, hgetter, hs]

theorem notMem_instanceTokens (hw : ¬ IsWord sign.toList) (hb : IsWord names.bean.toList) :
    sign ∉ instanceTokens names := by
  have hnamed : sign ≠ "other" := ne_of_isWord (by decide) hw
  have hinstance : sign ≠ "instanceof" := ne_of_isWord (by decide) hw
  have hbean : sign ≠ names.bean := ne_of_isWord hb hw
  have hother : sign ≠ otherName names := ne_of_isWord (isWord_otherName hb) hw
  simp [instanceTokens, hnamed, hinstance, hbean, hother]

theorem notMem_conjunctionTokens (hw : ¬ IsWord sign.toList)
    (hs : sign ∉ ["&&", "==", ".", "(", ")"]) (hb : IsWord names.bean.toList)
    (hn : ∀ f ∈ fields, IsWord f.name.toList) : sign ∉ conjunctionTokens fields names := by
  obtain ⟨hand, hs⟩ := not_or.mp (mt List.mem_cons.mpr hs)
  rw [conjunctionTokens, List.mem_append, not_or]
  refine ⟨notMem_instanceTokens hw hb, ?_⟩
  intro h
  obtain ⟨ts, hts, hm⟩ := List.mem_flatMap.mp h
  obtain ⟨f, hf, rfl⟩ := List.mem_map.mp hts
  rcases List.mem_cons.mp hm with he | hm
  · exact hand he
  · exact notMem_comparisonTokens hw hs hb (hn f hf) hm

theorem notMem_conditionTokens (hw : ¬ IsWord sign.toList)
    (hs : sign ∉ ["||", "&&", "==", ".", "(", ")"]) (hb : IsWord names.bean.toList)
    (hn : ∀ f ∈ fields, IsWord f.name.toList) : sign ∉ conditionTokens fields names := by
  obtain ⟨hor, hs⟩ := not_or.mp (mt List.mem_cons.mpr hs)
  have hthis : sign ≠ "this" := ne_of_isWord (by decide) hw
  have hother : sign ≠ "other" := ne_of_isWord (by decide) hw
  have hconjunction := notMem_conjunctionTokens hw hs hb hn
  simp only [List.mem_cons, List.not_mem_nil, or_false, not_or] at hs
  simp [conditionTokens, hthis, hother, hor, hs, hconjunction]

theorem notMem_argumentTokens {f : Field} (hw : ¬ IsWord sign.toList) (hs : sign ≠ ".")
    (hn : IsWord f.name.toList) : sign ∉ argumentTokens f := by
  have hthis : sign ≠ "this" := ne_of_isWord (by decide) hw
  have hname : sign ≠ f.name := ne_of_isWord hn hw
  simp [argumentTokens, hthis, hname, hs]

theorem notMem_argumentsTokens (hw : ¬ IsWord sign.toList) (hs : sign ∉ [".", ","])
    (hn : ∀ f ∈ fields, IsWord f.name.toList) : sign ∉ argumentsTokens fields := by
  simp only [List.mem_cons, List.not_mem_nil, or_false, not_or] at hs
  obtain ⟨hdot, hcomma⟩ := hs
  cases fields with
  | nil => exact List.not_mem_nil
  | cons f rest =>
    obtain ⟨hf, hrest⟩ := List.forall_mem_cons.mp hn
    rw [argumentsTokens, List.mem_append, not_or]
    refine ⟨notMem_argumentTokens hw hdot hf, ?_⟩
    intro h
    obtain ⟨ts, hts, hm⟩ := List.mem_flatMap.mp h
    obtain ⟨g, hg, rfl⟩ := List.mem_map.mp hts
    rcases List.mem_cons.mp hm with he | hm
    · exact hcomma he
    · exact notMem_argumentTokens hw hdot (hrest g hg) hm

theorem notMem_hashTokens (hw : ¬ IsWord sign.toList) (hs : sign ∉ ["(", ")", ".", ","])
    (hn : ∀ f ∈ fields, IsWord f.name.toList) : sign ∉ hashTokens fields := by
  have hobjects : sign ≠ "Objects" := ne_of_isWord (by decide) hw
  have hhash : sign ≠ "hash" := ne_of_isWord (by decide) hw
  simp only [List.mem_cons, List.not_mem_nil, or_false, not_or] at hs
  obtain ⟨hopen, hclose, hdot, hcomma⟩ := hs
  have harguments := notMem_argumentsTokens hw (by simp [hdot, hcomma]) hn
  simp [hashTokens, hobjects, hhash, hopen, hclose, hdot, harguments]

/-! ### Methods -/

theorem readReturn_append {signature result : List String} (hs : "\x7b" ∉ signature)
    (hr : "\x7b" ∉ result) :
    readReturn signature (signature ++ "\x7b" :: ("return" :: result ++ [";"])) = some result := by
  have hbody : "\x7b" ∉ "return" :: result ++ [";"] := by
    simp [hr]
  have hreturn : ("return" :: result ++ [";"]).dropPrefix? ["return"] = some (result ++ [";"]) :=
    dropPrefix?_append ["return"] (result ++ [";"])
  unfold readReturn
  rw [List.splitOn_append_cons_self_of_not_mem hs, List.splitOn_eq_singleton hbody]
  simp only [if_true, hreturn, Option.bind_some, dropSuffix?_append]

theorem readTest_comparisonTokens {f : Field} (hb : IsWord names.bean.toList)
    (hn : IsWord f.name.toList) :
    readTest (comparisonTokens names f) =
      some (.same (.field f.name) (.call (otherName names) f.getter)) := by
  have hw : ¬ IsWord "==".toList := by decide
  have hname : "==" ≠ f.name := ne_of_isWord hn hw
  have hother : "==" ≠ otherName names := ne_of_isWord (isWord_otherName hb) hw
  have hgetter : "==" ≠ f.getter := ne_of_isWord (isWord_getter hn) hw
  have hsplit : (comparisonTokens names f).splitOn "==" =
      [["this", ".", f.name], [otherName names, ".", f.getter, "(", ")"]] := by
    have hparts : comparisonTokens names f =
        ["this", ".", f.name] ++ "==" :: [otherName names, ".", f.getter, "(", ")"] := rfl
    rw [hparts, List.splitOn_append_cons_self_of_not_mem (by simp [hname]),
      List.splitOn_eq_singleton (by simp [hother, hgetter])]
  unfold readTest
  rw [hsplit]
  rfl

theorem readTest_instanceTokens (hb : IsWord names.bean.toList) :
    readTest (instanceTokens names) = some (.isA "other" names.bean (otherName names)) := by
  unfold readTest
  rw [List.splitOn_eq_singleton (notMem_instanceTokens (by decide) hb)]
  rfl

/-- The test for the class, and behind it one test for every field. -/
theorem readConjunction_conjunctionTokens (hb : IsWord names.bean.toList)
    (hn : ∀ f ∈ fields, IsWord f.name.toList) :
    readConjunction ("(" :: (conjunctionTokens fields names ++ [")"])) =
      some (.isA "other" names.bean (otherName names) ::
        fields.map fun f => .same (.field f.name) (.call (otherName names) f.getter)) := by
  have hcomparisons : (fields.map (comparisonTokens names)).mapM readTest =
      some (fields.map fun f => .same (.field f.name) (.call (otherName names) f.getter)) :=
    mapM_map_eq_some fun f hf => readTest_comparisonTokens hb (hn f hf)
  have hparts : ∀ part ∈ fields.map (comparisonTokens names), "&&" ∉ part := by
    rw [List.forall_mem_map]
    exact fun f hf => notMem_comparisonTokens (by decide) (by decide) hb (hn f hf)
  unfold readConjunction conjunctionTokens
  simp only [dropSuffix?_append, Option.bind_some]
  rw [splitOn_flatMap (notMem_instanceTokens (by decide) hb) hparts, List.mapM_cons,
    readTest_instanceTokens hb, hcomparisons]
  rfl

theorem readCondition_conditionTokens (hb : IsWord names.bean.toList)
    (hn : ∀ f ∈ fields, IsWord f.name.toList) :
    readCondition (conditionTokens fields names) = some (equalityOf fields names).alternatives := by
  have hfirst : readConjunction ["this", "==", "other"] = some [.same .self (.named "other")] := by
    decide
  have hconjunction := notMem_conjunctionTokens (by decide : ¬ IsWord "||".toList) (by decide) hb hn
  have hrest : "||" ∉ "(" :: (conjunctionTokens fields names ++ [")"]) := by
    simp [hconjunction]
  unfold readCondition conditionTokens
  rw [List.splitOn_append_cons_self_of_not_mem (by decide), List.splitOn_eq_singleton hrest,
    List.mapM_cons, hfirst, List.mapM_cons, readConjunction_conjunctionTokens hb hn]
  rfl

theorem readHashed_hashTokens (hn : ∀ f ∈ fields, IsWord f.name.toList) :
    readHashed (hashTokens fields) = some (fields.map fun f => .field f.name) := by
  unfold readHashed hashTokens
  rw [dropPrefix?_append]
  simp only [Option.bind_eq_bind, Option.bind_some, dropSuffix?_append]
  cases fields with
  | nil => rfl
  | cons f rest =>
    obtain ⟨hf, hrest⟩ := List.forall_mem_cons.mp hn
    have hcomma : ¬ IsWord ",".toList := by decide
    have hparts : ∀ part ∈ rest.map argumentTokens, "," ∉ part := by
      rw [List.forall_mem_map]
      exact fun g hg => notMem_argumentTokens hcomma (by decide) (hrest g hg)
    have harguments : (rest.map argumentTokens).mapM readOperand =
        some (rest.map fun g => .field g.name) :=
      mapM_map_eq_some fun g _ => rfl
    have hfirst : readOperand (argumentTokens f) = some (.field f.name) := rfl
    have hsplit : (argumentsTokens (f :: rest)).splitOn "," =
        argumentTokens f :: rest.map argumentTokens :=
      splitOn_flatMap (notMem_argumentTokens hcomma (by decide) hf) hparts
    have hne : (argumentsTokens (f :: rest)).isEmpty = false := rfl
    rw [hne, hsplit, List.mapM_cons, hfirst, harguments]
    rfl

/-- The methods that were written are the methods that are read. -/
theorem readEquality_equality (hb : IsWord names.bean.toList)
    (hn : ∀ f ∈ fields, IsWord f.name.toList) :
    readEquality (equality fields names) = some (equalityOf fields names) := by
  have htokens : tokens (equality fields names) =
      (equalsSignature ++ "\x7b" :: ("return" :: conditionTokens fields names ++ [";"])) ++
        "\x7d" :: ((hashCodeSignature ++ "\x7b" :: ("return" :: hashTokens fields ++ [";"])) ++
          "\x7d" :: []) := by
    have hempty : tokens "" = [] := rfl
    rw [equality, tokens_unlines, List.flatMap_append, List.flatMap_cons, hempty, List.nil_append,
      tokens_equalsLines hb hn, tokens_hashCodeLines hn]
    simp
  have hopen : "\x7b" ∉ conditionTokens fields names :=
    notMem_conditionTokens (by decide) (by decide) hb hn
  have hclose : "\x7d" ∉ conditionTokens fields names :=
    notMem_conditionTokens (by decide) (by decide) hb hn
  have hopen' : "\x7b" ∉ hashTokens fields := notMem_hashTokens (by decide) (by decide) hn
  have hclose' : "\x7d" ∉ hashTokens fields := notMem_hashTokens (by decide) (by decide) hn
  have hequals : "\x7d" ∉
      equalsSignature ++ "\x7b" :: ("return" :: conditionTokens fields names ++ [";"]) := by
    simp [equalsSignature, hclose]
  have hhashCode : "\x7d" ∉
      hashCodeSignature ++ "\x7b" :: ("return" :: hashTokens fields ++ [";"]) := by
    simp [hashCodeSignature, hclose']
  unfold readEquality
  rw [htokens, List.splitOn_append_cons_self_of_not_mem hequals,
    List.splitOn_append_cons_self_of_not_mem hhashCode, List.splitOn_nil]
  simp only [Option.bind_eq_bind, Option.bind_some,
    readReturn_append (by decide : "\x7b" ∉ equalsSignature) hopen,
    readReturn_append (by decide : "\x7b" ∉ hashCodeSignature) hopen',
    readCondition_conditionTokens hb hn, readHashed_hashTokens hn]
  rfl

end

end RecordBean.Reading
