import RecordBean.Generation

/-! # Working on several types at the same time

The work on one type is a sequence of steps, and no step touches the shared destination and the
shared events more than once: the opening, the extraction, the delivery, and the complaint of a type
that failed. A pass over types that are worked on at the same time takes these steps in some order
that keeps the order within each type. A destination takes a delivery as a whole.

`Generation.run` takes one type after another. Settings that are parallel leave the order of the
steps open, so what a pass comes to under them is said for all of its courses (`Course`).
-/

namespace RecordBean.Interleaving
open RecordBean.Generation

/-- How far the work on one type has come. -/
inductive Stage where
  | waiting
  | announced
  | extracted (s : Schema)
  | failing (e : GenerationError)
  | through (outcome : Except GenerationError String)

def Stage.outcome? : Stage → Option (Except GenerationError String)
  | .through outcome => some outcome
  | _ => none

section
variable {σ : Type} (sink : Sink σ) (catalog : Catalog) (settings : Settings)

/-- The next step of the work on one type. A type that is through has none left. -/
def advance (h : HostType) (stage : Stage) (w : Workplace σ) : Stage × Workplace σ :=
  match stage with
  | .waiting => (.announced, w.record (.reported (opening h)))
  | .announced =>
    match extract catalog settings h with
    | .error e => (.failing (.extract e), w)
    | .ok s => (.extracted s, w.record (.schemaExtracted s.qualifiedName s.fields.length))
  | .extracted s =>
    match finish sink settings s w with
    | (.error e, w) => (.failing e, w)
    | (.ok bean, w) => (.through (.ok bean), w)
  | .failing e => (.through (.error e), w.record (.reported (complaint h e)))
  | .through outcome => (.through outcome, w)

/-- A pass under way: the stage of every type, and what the types share. -/
structure Pass (σ : Type) where
  stage : HostType → Stage
  workplace : Workplace σ

namespace Pass

def start (w : Workplace σ) : Pass σ := ⟨fun _ => .waiting, w⟩

/-- The pass with another stage for one type and other things shared. -/
def put (p : Pass σ) (h : HostType) (r : Stage × Workplace σ) : Pass σ :=
  ⟨fun k => if k = h then r.1 else p.stage k, r.2⟩

def step (p : Pass σ) (h : HostType) : Pass σ :=
  p.put h (advance sink catalog settings h (p.stage h) p.workplace)

def follow (p : Pass σ) (schedule : List HostType) : Pass σ :=
  schedule.foldl (step sink catalog settings) p

/-- What has become of the types that are through. -/
def outcomes (p : Pass σ) (hosts : List HostType) : List (String × Except GenerationError String) :=
  hosts.filterMap fun h => (p.stage h).outcome?.map (h.name, ·)

def report (p : Pass σ) (hosts : List HostType) : Report := .ofOutcomes (p.outcomes hosts)

end Pass

def IsOver (p : Pass σ) (hosts : List HostType) : Prop :=
  ∀ h ∈ hosts, ∃ outcome, p.stage h = .through outcome

/-- The pass over all marked types before its first step. -/
def opened (w : Workplace σ) : Pass σ :=
  .start (w.record (.passStarted catalog.eligible.length settings.parallel))

/-- Whether a schedule takes the steps of the marked types, and of no others, until all of them are
through. -/
structure Interleaves (w : Workplace σ) (schedule : List HostType) : Prop where
  marked : ∀ h ∈ schedule, h ∈ catalog.eligible
  ended : IsOver ((opened catalog settings w).follow sink catalog settings schedule)
    catalog.eligible

/-- The schedule that takes all steps of one type before those of the next. -/
def inOrder (hosts : List HostType) : List HostType := hosts.flatMap (List.replicate 4)

/-- Whether a pass can follow a schedule. Only types that are worked on at the same time can get
into the way of each other. -/
structure IsPossible (w : Workplace σ) (schedule : List HostType) : Prop where
  interleaves : Interleaves sink catalog settings w schedule
  ordered : settings.parallel = false → schedule = inOrder catalog.eligible

/-- The pass over all marked types under a schedule. -/
def passUnder (w : Workplace σ) (schedule : List HostType) : Report × Workplace σ :=
  let p := (opened catalog settings w).follow sink catalog settings schedule
  (p.report catalog.eligible, p.workplace)

/-- A course that the pass over all marked types can take. -/
structure Course (w : Workplace σ) where
  schedule : List HostType
  possible : IsPossible sink catalog settings w schedule

end

namespace Course
variable {σ : Type} {sink : Sink σ} {catalog : Catalog} {settings : Settings} {w : Workplace σ}

def pass (course : Course sink catalog settings w) : Report × Workplace σ :=
  passUnder sink catalog settings w course.schedule

def report (course : Course sink catalog settings w) : Report := course.pass.1

/-- The workplace at the end. -/
def after (course : Course sink catalog settings w) : Workplace σ := course.pass.2

end Course

end RecordBean.Interleaving
