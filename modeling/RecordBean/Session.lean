import RecordBean.Generation

/-! # Sessions

A generator that is kept between requests: the catalog and the settings in force, the store with the
sources delivered so far, and the diagnostics reported so far.
-/

namespace RecordBean

structure Session where
  catalog : Catalog
  settings : Settings
  /-- The classes that the store refuses. -/
  readOnly : List String
  workplace : Workplace Store

namespace Session

def start : Session := ⟨.empty, .default, [], .start .empty⟩

def store (s : Session) : Store := s.workplace.state

def diagnostics (s : Session) : List Diagnostic := diagnosticsOf s.workplace.events

/-- Report a diagnostic that no type of the catalog caused. -/
def report (s : Session) (d : Diagnostic) : Session :=
  { s with workplace := s.workplace.record (.reported d) }

/-- Deliver a source that no type of the catalog caused. -/
def emit (s : Session) (d : Delivery) : Except EmitError Unit × Session :=
  let (outcome, workplace) := s.workplace.deliver (Store.sink s.readOnly) d
  (outcome, { s with workplace := workplace })

def extract? (s : Session) (name : String) : Option (Except ExtractError Schema) :=
  (s.catalog.get? name).map (extract s.catalog s.settings)

/-- Work on one type of the catalog, marked or not. -/
def generateOne (s : Session) (name : String) :
    Option (Except GenerationError String) × Session :=
  match s.catalog.get? name with
  | none => (none, s)
  | some h =>
    let (outcome, workplace) :=
      Generation.generateOne (Store.sink s.readOnly) s.catalog s.settings h s.workplace
    (some outcome, { s with workplace := workplace })

/-- Work on all marked types of the catalog. -/
def run (s : Session) : Report × Session :=
  let (report, workplace) :=
    Generation.run (Store.sink s.readOnly) s.catalog s.settings s.workplace
  (report, { s with workplace := workplace })

end Session

end RecordBean
