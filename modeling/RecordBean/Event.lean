import RecordBean.Text.Lines

/-! # Events of a pass

What a generation pass tells about itself, in order: diagnostics, which are meant for the user and
tied to a host type, and steps, which are of interest when a pass is looked at closely.
-/

namespace RecordBean

inductive Severity where
  | info
  | error
deriving DecidableEq, Repr

def Severity.label : Severity → String
  | .info => "info"
  | .error => "error"

/-- A message about a host type. -/
structure Diagnostic where
  severity : Severity
  message : String
  /-- The qualified name of the host type. -/
  subject : String
deriving DecidableEq, Repr

/-- Something that happens in a pass. -/
inductive Event where
  | passStarted (eligible : Nat) (parallel : Bool)
  | reported (d : Diagnostic)
  | schemaExtracted (record : String) (fields : Nat)
  | beanWritten (path : String)
deriving DecidableEq, Repr

def Event.diagnostic? : Event → Option Diagnostic
  | .reported d => some d
  | _ => none

def diagnosticsOf (events : List Event) : List Diagnostic := events.filterMap (·.diagnostic?)

namespace Diagnostic

def withSeverity (severity : Severity) (ds : List Diagnostic) : List Diagnostic :=
  ds.filter (·.severity == severity)

/-- Whether a diagnostic comes first by subject, and for one subject by message. -/
def precedes (a b : Diagnostic) : Bool :=
  decide (a.subject < b.subject) || (a.subject == b.subject && decide (a.message < b.message))

def insert (d : Diagnostic) : List Diagnostic → List Diagnostic
  | [] => [d]
  | e :: rest => if e.precedes d then e :: insert d rest else d :: e :: rest

/-- Diagnostics in an order that does not depend on when they were reported. -/
def bySubject (ds : List Diagnostic) : List Diagnostic := ds.foldr insert []

end Diagnostic

end RecordBean
