import RecordBean.Event
import RecordBean.Text.Quoted

/-! # Log lines

What a run tells about itself on the error stream, line by line.
-/

namespace RecordBean.Log
open RecordBean.Text

/-- Level of a log line, from the gravest on. -/
inductive Level where
  | error
  | warn
  | info
  | debug
  | trace
deriving DecidableEq, Repr

namespace Level

def label : Level → String
  | .error => "ERROR"
  | .warn => "WARN"
  | .info => "INFO"
  | .debug => "DEBUG"
  | .trace => "TRACE"

def rank : Level → Nat
  | .error => 1
  | .warn => 2
  | .info => 3
  | .debug => 4
  | .trace => 5

def all : List Level := [.error, .warn, .info, .debug, .trace]

end Level

/-! ## Lines -/

/-- A log line with its fields, which follow the message as `name=value`. -/
structure Line where
  level : Level
  /-- The part of the program that tells the line. -/
  target : String
  message : String
  fields : List (String × String)

/-- A character of a message. Those that could steer a terminal are written as escapes. -/
def messageChar (c : Char) : List Char :=
  if c = '\x1b' then "\\x1b".toList
  else if c = '\x07' then "\\x07".toList
  else if c = '\x08' then "\\x08".toList
  else if c = '\x0c' then "\\x0c".toList
  else if c = '\x7f' then "\\x7f".toList
  else if 0x80 ≤ c.toNat ∧ c.toNat ≤ 0x9F then codePointEscape c
  else [c]

def Line.text (l : Line) : String :=
  l.level.label ++ " " ++ String.ofList (l.message.toList.flatMap messageChar)
    ++ String.join (l.fields.map fun (name, value) => " " ++ name ++ "=" ++ value)

/-- Whether a line has a field. The message is one too. -/
def Line.hasField (l : Line) (name : String) : Bool :=
  name == "message" || l.fields.any (·.1 == name)

/-- The target of the commands' own lines. -/
def programTarget : String := "beanerator"

/-- The target of the lines of one command. -/
def generateTarget : String := "beanerator::generate"

/-- The target of the lines of a pass. -/
def passTarget : String := "beanerator_core::driver"

def shownBool (b : Bool) : String := if b then "true" else "false"

/-- The line that tells an event. -/
def lineOf : Event → Line
  | .passStarted eligible parallel => ⟨.debug, passTarget, "starting generation pass",
      [("eligible", toString eligible), ("parallel", shownBool parallel)]⟩
  | .reported d =>
    let level := match d.severity with
      | .info => Level.info
      | .error => .error
    ⟨level, passTarget, d.message, [("subject", quoted d.subject)]⟩
  | .schemaExtracted record fields => ⟨.debug, passTarget, "extracted schema",
      [("record", record), ("fields", toString fields)]⟩
  | .beanWritten path => ⟨.debug, passTarget, "wrote bean", [("path", path)]⟩

end RecordBean.Log
