import RecordBean.Emission
import RecordBean.Extraction

/-! # Generation

A pass over the marked types of a catalog. Every type is announced, prepared and delivered on its
own; a type that fails is reported and stops none of the others, and nothing is delivered for it.
-/

namespace RecordBean

/-- Why there is no bean for a host type. -/
inductive GenerationError where
  | extract (e : ExtractError)
  | render (e : RenderError)
  | emit (e : EmitError)
deriving DecidableEq, Repr

namespace GenerationError

def stage : GenerationError → String
  | .extract _ => "extract"
  | .render _ => "render"
  | .emit _ => "emit"

def message : GenerationError → String
  | .extract e => "extraction failed: " ++ e.message
  | .render e => "rendering failed: " ++ e.message
  | .emit e => "emission failed: " ++ e.message

end GenerationError

/-- What has become of the marked types, in catalog order. -/
structure Report where
  /-- The qualified names of the beans delivered. -/
  generated : List String
  /-- The names of the types that failed, with the reason. -/
  failed : List (String × GenerationError)
deriving DecidableEq, Repr

namespace Report

def isSuccess (r : Report) : Bool := r.failed.isEmpty

def attempted (r : Report) : Nat := r.generated.length + r.failed.length

def ofOutcomes (outcomes : List (String × Except GenerationError String)) : Report where
  generated := outcomes.filterMap fun (_, outcome) =>
    match outcome with
    | .ok bean => some bean
    | .error _ => none
  failed := outcomes.filterMap fun (name, outcome) =>
    match outcome with
    | .ok _ => none
    | .error e => some (name, e)

end Report

/-- What the work on all types shares: the destination, and the events so far. -/
structure Workplace (σ : Type) where
  state : σ
  events : List Event

namespace Workplace
variable {σ : Type}

/-- A destination where nothing has happened yet. -/
def start (state : σ) : Workplace σ := ⟨state, []⟩

/-- Record an event behind all others. -/
def record (w : Workplace σ) (e : Event) : Workplace σ := { w with events := w.events ++ [e] }

/-- Hand a source over and record what the destination tells. -/
def deliver (w : Workplace σ) (sink : Sink σ) (d : Delivery) :
    Except EmitError Unit × Workplace σ :=
  match sink.deliver d w.state with
  | (.ok told, state) => (.ok (), ⟨state, w.events ++ told⟩)
  | (.error e, state) => (.error e, ⟨state, w.events⟩)

end Workplace

namespace Generation

/-- The diagnostic with which the work on a type begins. -/
def opening (h : HostType) : Diagnostic :=
  ⟨.info, "Generating bean for " ++ h.name ++ "...", h.name⟩

/-- The diagnostic about a type that failed. -/
def complaint (h : HostType) (e : GenerationError) : Diagnostic :=
  ⟨.error, "Failed to beanerate `" ++ h.name ++ "`: " ++ e.message, h.name⟩

def prepare (settings : Settings) (s : Schema) : Except RenderError Delivery :=
  (renderOwn s settings.header).map fun source => ⟨s.packageName, s.beanName, source⟩

variable {σ : Type}

/-- From the schema of a type to its delivered bean, named by its qualified name. -/
def finish (sink : Sink σ) (settings : Settings) (s : Schema) (w : Workplace σ) :
    Except GenerationError String × Workplace σ :=
  match prepare settings s with
  | .error e => (.error (.render e), w)
  | .ok d =>
    match w.deliver sink d with
    | (.error e, w) => (.error (.emit e), w)
    | (.ok (), w) => (.ok s.beanQualifiedName, w)

/-- From a type to its delivered bean. -/
def attempt (sink : Sink σ) (catalog : Catalog) (settings : Settings) (h : HostType)
    (w : Workplace σ) : Except GenerationError String × Workplace σ :=
  match extract catalog settings h with
  | .error e => (.error (.extract e), w)
  | .ok s => finish sink settings s (w.record (.schemaExtracted s.qualifiedName s.fields.length))

/-- Work on one type, which need not be marked. -/
def generateOne (sink : Sink σ) (catalog : Catalog) (settings : Settings) (h : HostType)
    (w : Workplace σ) : Except GenerationError String × Workplace σ :=
  match attempt sink catalog settings h (w.record (.reported (opening h))) with
  | (.ok bean, w) => (.ok bean, w)
  | (.error e, w) => (.error e, w.record (.reported (complaint h e)))

/-- Work on types one after another. -/
def generateEach (sink : Sink σ) (catalog : Catalog) (settings : Settings) :
    List HostType → Workplace σ → List (String × Except GenerationError String) × Workplace σ
  | [], w => ([], w)
  | h :: rest, w =>
    let (outcome, w) := generateOne sink catalog settings h w
    let (outcomes, w) := generateEach sink catalog settings rest w
    ((h.name, outcome) :: outcomes, w)

/-- Work on every marked type of a catalog, one after another. Settings that are not parallel ask
for this course. Parallel ones allow it among others, and a destination that answers differently
depending on what it holds, as files do, can make a difference between them. -/
def run (sink : Sink σ) (catalog : Catalog) (settings : Settings) (w : Workplace σ) :
    Report × Workplace σ :=
  let eligible := catalog.eligible
  let (outcomes, w) := generateEach sink catalog settings eligible
    (w.record (.passStarted eligible.length settings.parallel))
  (.ofOutcomes outcomes, w)

end Generation

end RecordBean
