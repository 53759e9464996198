import RecordBean.Proofs.Tree

/-! # Writing trees as TOML

Every tree that is not nested too deeply can be written as TOML: a line for each member of the
document, all keys in quotes, and what is inside a value on the same line. The text reads back as
the tree. -/

namespace RecordBean.Toml
open RecordBean.Decimal RecordBean.Document RecordBean.Numerals RecordBean.Text

/-! ## Strings -/

namespace Quoted

/-- One character of a basic string. What JSON escapes is escaped in the same way, and one more
control character. -/
def encodeChar (c : Char) : List Char :=
  if c.toNat = 127 then Json.Quoted.controlEscape c else Json.Quoted.encodeChar c

def encode (s : String) : List Char := '"' :: s.toList.flatMap encodeChar ++ ['"']

theorem encode_append (s : String) (rest : List Char) :
    encode s ++ rest = '"' :: (s.toList.flatMap encodeChar ++ '"' :: rest) := by
  simp [encode]

theorem escapedChar?_control {c : Char} (h : c.toNat < 128) (rest : List Char) :
    escapedChar? ('u' :: '0' :: '0' :: Nat.digitChar (c.toNat / 16)
      :: Nat.digitChar (c.toNat % 16) :: rest) = some (c, rest) := by
  have hscalar : isScalar c.toNat = true := by simp [isScalar]; omega
  simp [escapedChar?, codeChar?, charOfHex?, natOfHex?_escape (show c.toNat < 256 by omega),
    hscalar]

theorem encodeChar_ne_nil (c : Char) : encodeChar c ≠ [] := by
  unfold encodeChar
  split
  · simp [Json.Quoted.controlEscape]
  · exact Json.Quoted.encodeChar_ne_nil c

theorem readBasic_encodeChar (c : Char) (steps : Nat) (cs : List Char) :
    readBasic (steps + 1) (encodeChar c ++ cs) = (readBasic steps cs).cons c := by
  unfold encodeChar Json.Quoted.encodeChar
  split_ifs with h0 h1 h2 h3 h4 h5 h6 h7 h8
  case pos =>
    have hcontrol : c.toNat < 128 := by omega
    simp [readBasic, Json.Quoted.controlEscape, escapedChar?_control hcontrol]
  case pos => simp [readBasic, escapedChar?, h1]
  case pos => simp [readBasic, escapedChar?, h2]
  case pos => simp [readBasic, escapedChar?, h3]
  case pos => simp [readBasic, escapedChar?, h4]
  case pos => simp [readBasic, escapedChar?, h5]
  case pos => simp [readBasic, escapedChar?, h6]
  case pos => simp [readBasic, escapedChar?, h7]
  case pos =>
    have hcontrol : c.toNat < 128 := by omega
    simp [readBasic, Json.Quoted.controlEscape, escapedChar?_control hcontrol]
  case neg =>
    have hplain : isPlain c = true := by simp [isPlain]; omega
    simp [readBasic, h1, h2, hplain]

theorem readBasic_encoded (s : List Char) (steps : Nat) (rest : List Char) (h : s.length < steps) :
    readBasic steps (s.flatMap encodeChar ++ '"' :: rest) = some (s, rest) := by
  induction s generalizing steps with
  | nil =>
    obtain ⟨steps, rfl⟩ : ∃ k, steps = k + 1 := ⟨steps - 1, by simp at h; omega⟩
    simp [readBasic]
  | cons c s ih =>
    obtain ⟨steps, rfl⟩ : ∃ k, steps = k + 1 := ⟨steps - 1, by simp at h; omega⟩
    have hs : s.length < steps := by simpa using h
    rw [List.flatMap_cons, List.append_assoc, readBasic_encodeChar, ih steps hs]
    rfl

theorem readBasic_encode (s : String) (rest : List Char) :
    readBasic ((s.toList.flatMap encodeChar ++ '"' :: rest).length + 1)
      (s.toList.flatMap encodeChar ++ '"' :: rest) = some (s.toList, rest) := by
  have hlen := length_le_flatMap encodeChar_ne_nil s.toList
  exact readBasic_encoded _ _ _ (by rw [List.length_append]; omega)

/-- Nothing is written as a quote that stands for itself. -/
theorem encodeChar_head (c : Char) (rest : List Char) : (encodeChar c ++ rest).head? ≠ some '"' := by
  unfold encodeChar Json.Quoted.encodeChar Json.Quoted.controlEscape
  split_ifs <;> simp_all

/-- Two quotes that are not followed by a third one do not open a string of several lines. -/
theorem readAny?_basic {cs : List Char} (h : ∀ rest, cs ≠ '"' :: '"' :: rest) :
    readAny? ('"' :: cs) = readBasic (cs.length + 1) cs := by
  unfold readAny?
  split
  · next heq => exact absurd (List.cons.inj heq).2 (h _)
  · next heq => cases heq
  · next heq => cases heq; rfl
  · next heq => cases heq
  · next hne _ => exact absurd rfl (hne cs)

/-- A written string is read back, unless a further quote follows it. -/
theorem readAny?_encode (s : String) {rest : List Char} (h : rest.head? ≠ some '"') :
    readAny? (encode s ++ rest) = some (s.toList, rest) := by
  have hclosed : ∀ r, s.toList.flatMap encodeChar ++ '"' :: rest ≠ '"' :: '"' :: r := by
    intro r heq
    cases hs : s.toList with
    | nil =>
      rw [hs] at heq
      cases heq
      exact h rfl
    | cons c cs =>
      rw [hs, List.flatMap_cons, List.append_assoc] at heq
      exact encodeChar_head c _ (by rw [heq]; rfl)
  rw [encode_append, readAny?_basic hclosed, readBasic_encode]

end Quoted

/-! ## Scalars -/

/-- A text in front of which every token ends. -/
def EndsToken (rest : List Char) : Prop := ∃ c cs, rest = c :: cs ∧ (c = ',' ∨ c = '\n')

theorem EndsToken.comma (cs : List Char) : EndsToken (',' :: cs) := ⟨',', cs, rfl, .inl rfl⟩

theorem EndsToken.lineFeed (cs : List Char) : EndsToken ('\n' :: cs) := ⟨'\n', cs, rfl, .inr rfl⟩

namespace Scalar

theorem splitToken_append {token rest : List Char} (htoken : ∀ c ∈ token, isTokenChar c = true)
    (hrest : EndsToken rest) : splitToken [] (token ++ rest) = (token, rest) := by
  induction token with
  | nil =>
    obtain ⟨c, cs, rfl, rfl | rfl⟩ := hrest <;> simp [splitToken, isTokenChar]
  | cons c token ih =>
    rw [List.forall_mem_cons] at htoken
    have hspace : c ≠ ' ' := by rintro rfl; cases htoken.1
    have htab : c ≠ '\t' := by rintro rfl; cases htoken.1
    rw [List.cons_append, splitToken]
    simp [hspace, htab, htoken.1, ih htoken.2]

theorem after?_digits {c : Char} (hc : c.isDigit = false) {ds : List Char}
    (h : ∀ d ∈ ds, d.isDigit = true) : after? c ds = none := by
  cases ds with
  | nil => rfl
  | cons d ds =>
    have hd := h d List.mem_cons_self
    have hne : d ≠ c := by
      rintro rfl
      rw [hc] at hd
      cases hd
    simp [after?, hne]

/-- Digits alone are no date: the mark behind the first of its numbers is missing. -/
theorem isDate_digits {ds : List Char} (h : ∀ d ∈ ds, d.isDigit = true) : isDate ds = false := by
  have hrest : ∀ k, ∀ d ∈ ds.drop k, d.isDigit = true := fun k d hd => h d (List.mem_of_mem_drop hd)
  have hday : day? ds = none := by
    have hmark := after?_digits (c := '-') (by decide) (hrest 4)
    simp only [day?, fixedNumber?]
    split
    · simp [hmark]
    · rfl
  have hclock : clock? ds = none := by
    have hmark := after?_digits (c := ':') (by decide) (hrest 2)
    simp only [clock?, fixedNumber?]
    split
    · simp [hmark]
    · rfl
  simp [isDate, hday, hclock]

theorem isDate_minus (cs : List Char) : isDate ('-' :: cs) = false := by
  simp [isDate, day?, clock?, fixedNumber?]

theorem isDate_integer (n : Int) : isDate (signOf n ++ digitsOf n) = false := by
  unfold signOf
  split
  · exact isDate_minus _
  · exact isDate_digits fun d hd => isDigit_of_mem_digitsOf hd

theorem ungroup?_digits {ds : List Char} (h : ∀ d ∈ ds, d.isDigit = true) (hne : ds ≠ []) :
    ungroup? Char.isDigit ds = some ds := by
  induction ds with
  | nil => exact absurd rfl hne
  | cons c ds ih =>
    rw [List.forall_mem_cons] at h
    cases ds with
    | nil => simp [ungroup?, h.1]
    | cons d ds =>
      have hunderscore : d ≠ '_' := by
        rintro rfl
        exact absurd (h.2 '_' List.mem_cons_self) (by decide)
      simp [ungroup?, h.1, hunderscore, ih h.2 (by simp)]

theorem wholeDigits?_digitsOf (n : Int) : wholeDigits? (digitsOf n) = some (digitsOf n) := by
  obtain ⟨c, cs, hcs, -, hzero⟩ := digitsOf_eq_cons n
  have hgroup := ungroup?_digits (fun d hd => isDigit_of_mem_digitsOf (n := n) hd)
    (by rw [hcs]; simp)
  simp only [wholeDigits?, hgroup]
  rw [hcs]
  simp only [Option.bind_eq_bind, Option.bind_some]
  split
  · next heq =>
    injection heq with hc htail
    cases (hzero hc).symm.trans htail
  · rfl

theorem decimalNode?_digitsOf (n : Int) :
    decimalNode? (decide (n < 0)) (digitsOf n) = some (integerNode n) := by
  simp only [decimalNode?, wholeDigits?_digitsOf, natOfDigits_digitsOf, decide_eq_true_eq]
  congr 2
  split <;> omega

theorem integer?_integer (n : Int) :
    integer? (signOf n ++ digitsOf n) = some (integerNode n) := by
  rw [← decimalNode?_digitsOf n]
  obtain ⟨c, cs, hcs, hdigit, hzero⟩ := digitsOf_eq_cons n
  unfold signOf
  split
  · next hneg => simp [integer?, splitSign, hneg]
  · next hneg =>
    rw [List.nil_append, hcs]
    -- a zero in front would be a radix only if something followed it
    unfold integer?
    split
    · next heq => injection heq with hc htail; cases (hzero hc).symm.trans htail
    · next heq => injection heq with hc htail; cases (hzero hc).symm.trans htail
    · next heq => injection heq with hc htail; cases (hzero hc).symm.trans htail
    · have hminus : c ≠ '-' := by rintro rfl; cases hdigit
      have hplus : c ≠ '+' := by rintro rfl; cases hdigit
      simp [splitSign, hminus, hplus, hneg]

theorem node?_integer (n : Int) : node? (signOf n ++ digitsOf n) = some (integerNode n) := by
  obtain ⟨c, cs, hcs, hstart⟩ := integer_eq_cons n
  have htrue : signOf n ++ digitsOf n ≠ "true".toList := by
    intro h
    exact ne_of_startsNumber (d := 't') hstart rfl (List.cons.inj (hcs.symm.trans h)).1
  have hfalse : signOf n ++ digitsOf n ≠ "false".toList := by
    intro h
    exact ne_of_startsNumber (d := 'f') hstart rfl (List.cons.inj (hcs.symm.trans h)).1
  rw [node?, if_neg htrue, if_neg hfalse, isDate_integer, integer?_integer]
  rfl

theorem read?_append {token rest : List Char} {n : Node} (hnode : node? token = some n)
    (htoken : ∀ c ∈ token, isTokenChar c = true) (hrest : EndsToken rest) :
    read? (token ++ rest) = some (n, rest) := by
  simp [read?, splitToken_append htoken hrest, hnode]

theorem isTokenChar_of_startsNumber {c : Char} (h : startsNumber c = true) :
    isTokenChar c = true := by
  simp only [isTokenChar, Bool.not_eq_true', Bool.or_eq_false_iff, beq_eq_false_iff_ne]
  and_intros <;> exact ne_of_startsNumber h rfl

theorem read?_integer (n : Int) {rest : List Char} (h : EndsToken rest) :
    read? (signOf n ++ digitsOf n ++ rest) = some (integerNode n, rest) := by
  refine read?_append (node?_integer n) ?_ h
  intro c hc
  apply isTokenChar_of_startsNumber
  rcases List.mem_append.mp hc with hsign | hdigit
  · unfold signOf at hsign
    split at hsign
    · cases List.mem_singleton.mp hsign
      rfl
    · cases hsign
  · simp [startsNumber, isDigit_of_mem_digitsOf hdigit]

end Scalar

/-! ## Values -/

mutual

/-- A tree as a value on one line. -/
def write : Tree → List Char
  | .boolean value => if value then "true".toList else "false".toList
  | .integer value => signOf value ++ digitsOf value
  | .text value => Quoted.encode value
  | .list items => '[' :: (writeItems items ++ [']'])
  | .table members => '\x7b' :: (writeMembers members ++ ['\x7d'])

/-- Items with a comma behind each. -/
def writeItems : List Tree → List Char
  | [] => []
  | t :: rest => write t ++ ',' :: writeItems rest

/-- Members with a comma behind each. -/
def writeMembers : List (String × Tree) → List Char
  | [] => []
  | (name, t) :: rest => Quoted.encode name ++ '=' :: (write t ++ ',' :: writeMembers rest)

end

/-- What is not skipped between values. -/
def isSolid (c : Char) : Bool := !(Quoted.isSpace c || c == '\n' || c == '\r' || c == '#')

theorem skipTrivia_solid {c : Char} (h : isSolid c = true) (cs : List Char) :
    skipTrivia false (c :: cs) = some (c :: cs) := by
  simp only [isSolid, Bool.not_eq_true', Bool.or_eq_false_iff, beq_eq_false_iff_ne] at h
  obtain ⟨⟨⟨hspace, hfeed⟩, hreturn⟩, hcomment⟩ := h
  simp [skipTrivia, hspace, hreturn, hcomment]

/-- How a value begins. -/
theorem write_eq_cons (t : Tree) : ∃ c cs, write t = c :: cs ∧ isSolid c = true ∧ c ≠ ']' := by
  cases t with
  | boolean value => cases value <;> exact ⟨_, _, rfl, by decide, by decide⟩
  | text value => exact ⟨'"', _, rfl, by decide, by decide⟩
  | list items => exact ⟨'[', _, rfl, by decide, by decide⟩
  | table members => exact ⟨'\x7b', _, rfl, by decide, by decide⟩
  | integer n =>
    obtain ⟨c, cs, hcs, hstart⟩ := integer_eq_cons n
    refine ⟨c, cs, hcs, ?_, ne_of_startsNumber hstart rfl⟩
    simp only [isSolid, Quoted.isSpace, Bool.not_eq_true', Bool.or_eq_false_iff,
      beq_eq_false_iff_ne]
    and_intros <;> exact ne_of_startsNumber hstart rfl

/-- A value that reads back as what it was written from. Two steps for every character are enough. -/
def ReadsBack (t : Tree) : Prop :=
  ∀ (steps depth : Nat) (rest : List Char), t.depth ≤ depth → EndsToken rest →
    2 * (write t).length ≤ steps + 1 →
    readValue (steps + 1) depth (write t ++ rest) = some (t.tomlNode, rest)

theorem readItems_write {items : List Tree} (h : ∀ t ∈ items, ReadsBack t) (steps depth : Nat)
    (hdepth : Tree.itemsDepth items ≤ depth) (hsteps : 2 * (writeItems items).length ≤ steps)
    (rest : List Char) :
    readItems (steps + 1) depth (writeItems items ++ ']' :: rest)
      = some (Tree.tomlNodes items, rest) := by
  induction items generalizing steps with
  | nil =>
    have hsolid : isSolid ']' = true := by decide
    simp [writeItems, readItems, skipTrivia_solid hsolid, Tree.tomlNodes]
  | cons t items ih =>
    rw [List.forall_mem_cons] at h
    rw [Tree.itemsDepth, Nat.max_le] at hdepth
    rw [writeItems, List.length_append, List.length_cons] at hsteps
    obtain ⟨steps, rfl⟩ : ∃ k, steps = k + 1 := ⟨steps - 1, by omega⟩
    have hcomma : isSolid ',' = true := by decide
    have hfirst := h.1 steps depth (',' :: (writeItems items ++ ']' :: rest)) hdepth.1
      (.comma _) (by omega)
    have hrest := ih h.2 steps hdepth.2 (by omega)
    obtain ⟨c, cs, hcs, hsolid, hclose⟩ := write_eq_cons t
    rw [hcs, List.cons_append] at hfirst
    rw [writeItems, List.append_assoc, List.cons_append, hcs, List.cons_append, readItems,
      skipTrivia_solid hsolid]
    simp [hclose, hfirst, skipTrivia_solid hcomma, hrest, Tree.tomlNodes]

theorem readKey_encode (name : String) (rest : List Char) :
    readKey (Quoted.encode name ++ '=' :: rest) = some ([], name, '=' :: rest) := by
  have hpart : readKeyPart (Quoted.encode name ++ '=' :: rest) = some (name, '=' :: rest) := by
    rw [Quoted.encode_append, readKeyPart, Quoted.readBasic_encode]
    simp
  have hspace : skipSpace ('=' :: rest) = '=' :: rest := by simp [skipSpace, Quoted.isSpace]
  rw [readKey, readKeyParts, hpart]
  simp [hspace, depthLimit]

/-- A value under a plain key that is new. -/
theorem addValue_new {entries : Entries} {key : String} (h : key ∉ entries.map (·.1)) (n : Node) :
    entries.addValue [] key n .header = some (entries ++ [(key, .value n)]) := by
  have hnone : entries.lookup key = none := by
    rw [List.lookup_eq_none_iff]
    intro e he
    have hne : key ≠ e.1 := fun heq => h (List.mem_map.mpr ⟨e, he, heq.symm⟩)
    simpa using hne
  simp [Entries.addValue, Entries.modify, hnone]

/-- The members of a table as entries of a document. -/
def entriesOf (members : List (String × Tree)) : Entries :=
  members.map fun m => (m.1, .value m.2.tomlNode)

theorem entryNodes_entriesOf (members : List (String × Tree)) :
    entryNodes (entriesOf members) = Tree.tomlMembers members := by
  induction members with
  | nil => rfl
  | cons m members ih =>
    rw [entriesOf, List.map_cons, entryNodes, ← entriesOf, ih]
    rfl

theorem readInline_write {members : List (String × Tree)} (h : ∀ m ∈ members, ReadsBack m.2)
    (steps depth : Nat) (entries : Entries) (hdepth : Tree.membersDepth members ≤ depth)
    (hsteps : 2 * (writeMembers members).length ≤ steps)
    (hnames : (entries.map (·.1) ++ members.map (·.1)).Nodup) (rest : List Char) :
    readInline (steps + 1) depth entries (writeMembers members ++ '\x7d' :: rest)
      = some (entries ++ entriesOf members, rest) := by
  induction members generalizing steps entries with
  | nil =>
    have hsolid : isSolid '\x7d' = true := by decide
    simp [writeMembers, readInline, skipTrivia_solid hsolid, entriesOf]
  | cons m members ih =>
    obtain ⟨name, t⟩ := m
    rw [List.forall_mem_cons] at h
    rw [Tree.membersDepth, Nat.max_le] at hdepth
    rw [writeMembers, List.length_append, List.length_cons, List.length_append,
      List.length_cons] at hsteps
    obtain ⟨steps, rfl⟩ : ∃ k, steps = k + 1 := ⟨steps - 1, by omega⟩
    have hquote : isSolid '"' = true := by decide
    have hequals : isSolid '=' = true := by decide
    have hcomma : isSolid ',' = true := by decide
    have hfirst := h.1 steps depth (',' :: (writeMembers members ++ '\x7d' :: rest)) hdepth.1
      (.comma _) (by simp only; omega)
    have hnew : name ∉ entries.map (·.1) := by
      rw [List.map_cons] at hnames
      exact fun hin => (List.nodup_append.mp hnames).2.2 name hin name List.mem_cons_self rfl
    have hrest := ih h.2 steps (entries ++ [(name, .value t.tomlNode)]) hdepth.2 (by omega)
      (by simpa using hnames)
    obtain ⟨c, cs, hcs, hsolid, -⟩ := write_eq_cons t
    have hvalue : (afterInlineEquals? ('=' :: (write t ++ ',' :: (writeMembers members
        ++ '\x7d' :: rest)))).bind (readValue (steps + 1) depth)
        = some (t.tomlNode, ',' :: (writeMembers members ++ '\x7d' :: rest)) := by
      rw [hcs, List.cons_append] at hfirst ⊢
      simp only [afterInlineEquals?, skipTrivia_solid hequals, skipTrivia_solid hsolid,
        Option.bind_some, hfirst]
    have hkey := readKey_encode name (write t ++ ',' :: (writeMembers members ++ '\x7d' :: rest))
    rw [Quoted.encode_append] at hkey
    rw [writeMembers, List.append_assoc, List.cons_append, List.append_assoc, List.cons_append,
      Quoted.encode_append, readInline, skipTrivia_solid hquote]
    simp [hkey, hvalue, addValue_new hnew, skipTrivia_solid hcomma, hrest, entriesOf]

theorem readValue_integer (n : Int) (steps depth : Nat) {rest : List Char} (h : EndsToken rest) :
    readValue (steps + 1) depth (signOf n ++ digitsOf n ++ rest)
      = some (Scalar.integerNode n, rest) := by
  rw [← Scalar.read?_integer n h]
  obtain ⟨c, cs, hcs, hstart⟩ := integer_eq_cons n
  have hquote : c ≠ '"' := ne_of_startsNumber hstart rfl
  have happos : c ≠ '\'' := ne_of_startsNumber hstart rfl
  have hbracket : c ≠ '[' := ne_of_startsNumber hstart rfl
  have hbrace : c ≠ '\x7b' := ne_of_startsNumber hstart rfl
  rw [hcs, List.cons_append]
  simp [readValue, hquote, happos, hbracket, hbrace]

/-- Every tree without repeated names reads back. -/
theorem readsBack {t : Tree} (h : t.isDistinct = true) : ReadsBack t := by
  induction t with
  | boolean value =>
    intro steps depth rest _ hrest _
    have hnode : Scalar.node? (write (.boolean value)) = some (.boolean value) := by
      cases value <;> simp [write, Scalar.node?]
    have htoken : ∀ c ∈ write (.boolean value), Scalar.isTokenChar c = true := by
      cases value <;> simp [write, Scalar.isTokenChar]
    have hread := Scalar.read?_append hnode htoken hrest
    cases value <;> exact hread
  | integer n =>
    intro steps depth rest _ hrest _
    exact readValue_integer n steps depth hrest
  | text s =>
    intro steps depth rest _ hrest _
    have hquote : rest.head? ≠ some '"' := by
      obtain ⟨c, cs, rfl, rfl | rfl⟩ := hrest <;> simp
    have hread := Quoted.readAny?_encode s hquote
    rw [Quoted.encode_append] at hread
    rw [write, Quoted.encode_append]
    simp [readValue, hread, Tree.tomlNode]
  | list items ih =>
    intro steps depth rest hdepth _ hsteps
    have hitems : ∀ t ∈ items, ReadsBack t :=
      fun t ht => ih t ht (Tree.isDistinct_list.mp h t ht)
    rw [write, List.length_cons, List.length_append, List.length_singleton] at hsteps
    rw [Tree.depth] at hdepth
    obtain ⟨steps, rfl⟩ : ∃ k, steps = k + 1 := ⟨steps - 1, by omega⟩
    obtain ⟨depth, rfl⟩ : ∃ k, depth = k + 1 := ⟨depth - 1, by omega⟩
    have hread := readItems_write hitems steps depth (by omega) (by omega) rest
    rw [write, List.cons_append, List.append_assoc, List.singleton_append]
    simp [readValue, hread, Tree.tomlNode]
  | table members ih =>
    intro steps depth rest hdepth _ hsteps
    obtain ⟨hnames, hall⟩ := Tree.isDistinct_table.mp h
    have hmembers : ∀ m ∈ members, ReadsBack m.2 := fun m hm => ih m hm (hall m hm)
    rw [write, List.length_cons, List.length_append, List.length_singleton] at hsteps
    rw [Tree.depth] at hdepth
    obtain ⟨steps, rfl⟩ : ∃ k, steps = k + 1 := ⟨steps - 1, by omega⟩
    obtain ⟨depth, rfl⟩ : ∃ k, depth = k + 1 := ⟨depth - 1, by omega⟩
    have hread := readInline_write hmembers steps depth [] (by omega) (by omega) hnames rest
    rw [write, List.cons_append, List.append_assoc, List.singleton_append]
    simp [readValue, hread, Tree.tomlNode, entryNodes_entriesOf]

/-! ## Documents -/

/-- A line for each member. -/
def writeLines : List (String × Tree) → List Char
  | [] => []
  | (name, t) :: rest => Quoted.encode name ++ '=' :: (write t ++ '\n' :: writeLines rest)

/-- A table as a document. -/
def render (members : List (String × Tree)) : String := String.ofList (writeLines members)

theorem readLine_write {name : String} {t : Tree} (ht : t.isDistinct = true)
    (hdepth : t.depth ≤ depthLimit) {root : Entries} (hnew : name ∉ root.map (·.1))
    (rest : List Char) :
    readLine ⟨root, []⟩ (Quoted.encode name ++ '=' :: (write t ++ '\n' :: rest))
      = some (⟨root ++ [(name, .value t.tomlNode)], []⟩, '\n' :: rest) := by
  have hkey := readKey_encode name (write t ++ '\n' :: rest)
  obtain ⟨c, cs, hcs, hsolid, -⟩ := write_eq_cons t
  have hafter : afterEquals? ('=' :: (write t ++ '\n' :: rest))
      = some (write t ++ '\n' :: rest) := by
    have hspace : Quoted.isSpace c = false := by
      simp only [isSolid, Bool.not_eq_true', Bool.or_eq_false_iff] at hsolid
      exact hsolid.1.1.1
    simp [afterEquals?, hcs, skipSpace, hspace]
  have hvalue : readValue (2 * (write t ++ '\n' :: rest).length + 2) depthLimit
      (write t ++ '\n' :: rest) = some (t.tomlNode, '\n' :: rest) :=
    readsBack ht _ _ _ hdepth (.lineFeed rest) (by rw [List.length_append]; omega)
  have hadd : Draft.add ⟨root, []⟩ [] name t.tomlNode
      = some ⟨root ++ [(name, .value t.tomlNode)], []⟩ := by
    simp [Draft.add, Entries.modify, addValue_new hnew]
  have hentry : readEntry ⟨root, []⟩ (Quoted.encode name ++ '=' :: (write t ++ '\n' :: rest))
      = some (⟨root ++ [(name, .value t.tomlNode)], []⟩, '\n' :: rest) := by
    simp only [readEntry, hkey, Option.bind_eq_bind, Option.bind_some, hafter, hvalue, hadd,
      Option.pure_def]
  rw [Quoted.encode_append] at hentry ⊢
  have hspace : Quoted.isSpace '"' = false := by decide
  rw [← hentry]
  simp [readLine, skipSpace, hspace, Quoted.lineBreak?]

theorem readLines_write {members : List (String × Tree)} (root : Entries) (steps : Nat)
    (hdistinct : ∀ m ∈ members, m.2.isDistinct = true)
    (hdepth : Tree.membersDepth members ≤ depthLimit)
    (hnames : (root.map (·.1) ++ members.map (·.1)).Nodup)
    (hsteps : (writeLines members).length ≤ steps) :
    readLines steps ⟨root, []⟩ (writeLines members) = some ⟨root ++ entriesOf members, []⟩ := by
  induction members generalizing root steps with
  | nil => cases steps <;> simp [writeLines, readLines, entriesOf]
  | cons m members ih =>
    obtain ⟨name, t⟩ := m
    rw [List.forall_mem_cons] at hdistinct
    rw [Tree.membersDepth, Nat.max_le] at hdepth
    rw [writeLines, List.length_append, List.length_cons, List.length_append,
      List.length_cons] at hsteps
    obtain ⟨steps, rfl⟩ : ∃ k, steps = k + 1 := ⟨steps - 1, by omega⟩
    have hnew : name ∉ root.map (·.1) := by
      rw [List.map_cons] at hnames
      exact fun hin => (List.nodup_append.mp hnames).2.2 name hin name List.mem_cons_self rfl
    have hline := readLine_write hdistinct.1 hdepth.1 hnew (writeLines members)
    have hrest := ih (root ++ [(name, .value t.tomlNode)]) steps hdistinct.2 hdepth.2
      (by simpa using hnames) (by omega)
    have hend : lineEnd? ('\n' :: writeLines members) = some (writeLines members) := by
      simp [lineEnd?, skipSpace, Quoted.isSpace, Quoted.lineBreak?]
    rw [Quoted.encode_append] at hline
    rw [writeLines, Quoted.encode_append, readLines]
    · simp only [hline, Option.bind_eq_bind, Option.bind_some, hend, hrest]
      simp [entriesOf]
    · nofun

/-- The text of a document reads back as its tree. -/
theorem parse?_render {members : List (String × Tree)}
    (hdistinct : (Tree.table members).isDistinct = true)
    (hdepth : Tree.membersDepth members ≤ depthLimit) :
    parse? (render members) = some (Tree.table members).tomlNode := by
  obtain ⟨hnames, hall⟩ := Tree.isDistinct_table.mp hdistinct
  have hmark : skipMark (writeLines members) = writeLines members := by
    cases members with
    | nil => rfl
    | cons m members => rw [writeLines, Quoted.encode_append, skipMark, if_neg (by decide)]
  have hread := readLines_write [] ((writeLines members).length + 1) hall hdepth hnames (by omega)
  simp [parse?, render, hmark, Draft.empty, hread, entryNodes_entriesOf, Tree.tomlNode]

end RecordBean.Toml
