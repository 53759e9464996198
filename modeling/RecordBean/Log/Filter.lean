import RecordBean.Log
import RecordBean.Log.Pattern.Reader
import RecordBean.Path
import RecordBean.Text.Blank

/-! # Log filters

Filters choose among log lines by their level, their target and their fields. A filter is a list of
directives, and of those that concern a line the closest one decides.
-/

namespace RecordBean.Log
open RecordBean.Text

structure Directive where
  /-- What a target has to begin with. -/
  target : Option String
  /-- A field that a line has to have. -/
  field : Option String
  /-- The last level shown; nothing is shown without one. -/
  level : Option Level
  /-- Whether the directive is about the inside of spans, of which there are none. -/
  inSpan : Bool
deriving DecidableEq, Repr

/-- A filter without directives shows nothing. -/
abbrev Filter := List Directive

/-! ## Levels -/

/-- The number of a level, with an optional plus sign. -/
def levelNumber? (text : String) : Option Nat :=
  let digits := match text.toList with
    | '+' :: rest => rest
    | cs => cs
  if digits.isEmpty || !digits.all Char.isDigit then none
  else some (digits.foldl (fun n c => 10 * n + (c.toNat - '0'.toNat)) 0)

/-- A level by its number or its name in any case; zero and `off` show nothing. -/
def parseLevel? (text : String) : Option (Option Level) :=
  match levelNumber? text with
  | some n =>
    if n = 0 then some none else (Level.all.find? (·.rank == n)).map some
  | none =>
    let name := String.ofList (text.toList.map Char.toUpper)
    if name = "OFF" then some none else (Level.all.find? (·.label == name)).map some

/-- The level behind an equals sign; without one everything is shown. -/
def parseBound? (cs : List Char) : Option (Option Level) :=
  if cs.isEmpty then some (some .trace) else parseLevel? (String.ofList cs)

/-! ## Directives

Blanks around a directive are passed over in looking for its marks, but they count in taking its
parts: `marks` is the directive without them, `text` the directive with them, and every part is
taken from `text` at the place at which it was found in `marks`. Places are counted in bytes. -/

def byteCount (cs : List Char) : Nat := cs.foldl (fun n c => n + c.utf8Size) 0

/-- A text in two at a place, which must not be inside a character. -/
def splitAtByte? : Nat → List Char → Option (List Char × List Char)
  | 0, cs => some ([], cs)
  | _ + 1, [] => none
  | n + 1, c :: rest =>
    if n + 1 < c.utf8Size then none
    else (splitAtByte? (n + 1 - c.utf8Size) rest).map fun (front, rest) => (c :: front, rest)

/-- What stands in a text from one place on, for some bytes. -/
def part? (text : List Char) (start count : Nat) : Option (List Char) := do
  let (_, rest) ← splitAtByte? start text
  let (part, _) ← splitAtByte? count rest
  return part

/-- The bound of a directive whose condition ends in front of `left`, at the place `start`. -/
def boundBehind? (text : List Char) (start : Nat) (left : List Char) : Option (Option Level) :=
  match left with
  | [] => some (some .trace)
  | '=' :: _ => do
    let (_, bound) ← splitAtByte? (start + 1) text
    parseBound? bound
  | _ => none

/-- A field and whether it comes with a value, which no line can be asked for. -/
def parseField? (cs : List Char) : Option (String × Bool) :=
  let name := String.ofList (cs.takeWhile (· != '='))
  match cs.dropWhile (· != '=') with
  | [] => some (name, false)
  | _ :: rest =>
    if Pattern.isValue (rest.takeWhile (· != '=')) then some (name, true) else none

/-- A directive with a condition in brackets, of which `inside` is what follows the opening one, at
the place `start`: the name of a span, a field in braces, or both. -/
def parseCondition? (target : Option String) (text : List Char) (start : Nat)
    (inside : List Char) : Option Directive := do
  let span := inside.takeWhile fun c => c != ']' && c != '\x7b'
  let start := start + byteCount span
  match inside.dropWhile fun c => c != ']' && c != '\x7b' with
  | ']' :: left =>
    let bound ← boundBehind? text (start + 1) left
    return ⟨target, none, bound, true⟩
  | '\x7b' :: inside =>
    let start := start + 1
    let size := byteCount (inside.takeWhile (· != '\x7d'))
    if size = 0 then none
    match inside.dropWhile (· != '\x7d') with
    | '\x7d' :: ']' :: left =>
      let (field, hasValue) ← parseField? (← part? text start size)
      let bound ← boundBehind? text (start + size + 2) left
      return ⟨target, some field, bound, !span.isEmpty || hasValue⟩
    | _ => none
  | _ => none

/-- What a directive can begin with. -/
def beginsDirective (c : Char) : Bool :=
  c == '-' || c == ':' || c == '_' || c == '[' || isAlphanumeric c

/-- A directive: a level, or a target and a condition with a level behind them. -/
def parseDirective? (directive : String) : Option Directive := do
  let text := directive.toList
  let marks := trimChars text
  if !beginsDirective (← marks.head?) then none
  let size := byteCount (marks.takeWhile fun c => c != '=' && c != '[')
  match marks.dropWhile fun c => c != '=' && c != '[' with
  | [] =>
    match parseLevel? directive with
    | some level => some ⟨none, none, level, false⟩
    | none => some ⟨some directive, none, some .trace, false⟩
  | '[' :: inside =>
    if size = 0 then parseCondition? none text 1 inside
    else
      let target := String.ofList (← part? text 0 size)
      parseCondition? (some target) text (size + 1) inside
  | left =>
    let target := String.ofList (← part? text 0 size)
    let bound ← boundBehind? text size left
    return ⟨some target, none, bound, false⟩

/-- A filter: directives between commas. -/
def parseFilter? (text : String) : Option Filter :=
  ((Path.split ',' text).filter (!·.isEmpty)).mapM parseDirective?

/-- The filter of a run: that of the environment, else the configured one, and `info` if there is
none that can be understood. -/
def chooseFilter (environment : Option String) (configured : String) : Filter :=
  (environment.bind parseFilter? <|> parseFilter? configured).getD
    [⟨none, none, some .info, false⟩]

/-! ## Choosing lines -/

namespace Directive

/-- Whether a directive speaks about a line. -/
def concerns (d : Directive) (l : Line) : Bool :=
  !d.inSpan && (d.target.getD "").toList.isPrefixOf l.target.toList
    && d.field.all l.hasField

/-- How long the target of a directive is; none is shorter than an empty one. -/
def targetSize (d : Directive) : Nat :=
  match d.target with
  | some t => t.utf8ByteSize + 1
  | none => 0

/-- Whether a directive is about a field at least as much as another one. Of two fields the one
with the larger name counts for more. -/
def fieldAtLeast (d e : Directive) : Bool :=
  match d.field, e.field with
  | _, none => true
  | none, some _ => false
  | some f, some g => decide (g ≤ f)

/-- Whether a directive is at least as close to its lines as another one: by the length of its
target, then by its field. -/
def atLeastAsClose (d e : Directive) : Bool :=
  decide (e.targetSize < d.targetSize)
    || (d.targetSize == e.targetSize && d.fieldAtLeast e)

/-- Whether a directive shows lines of a level. -/
def shows (d : Directive) (level : Level) : Bool :=
  match d.level with
  | some bound => decide (level.rank ≤ bound.rank)
  | none => false

end Directive

/-- Whether a filter shows a line. Of the directives about it the closest one decides, and among
equals the last one. -/
def Filter.shows (f : Filter) (l : Line) : Bool :=
  let closest := (f.filter (·.concerns l)).foldl (fun best d =>
    match best with
    | some b => if d.atLeastAsClose b then some d else some b
    | none => some d) none
  closest.any (·.shows l.level)

/-- The lines that a filter shows, as text. -/
def shown (f : Filter) (lines : List Line) : String :=
  unlines ((lines.filter f.shows).map Line.text)

end RecordBean.Log
