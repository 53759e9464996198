import RecordBean.Command
import RecordBean.Proofs.Interleaving
import RecordBean.Proofs.Pieces

/-! # Three commands over one catalog

A preview works on one type by itself, and the other two commands run a pass, one into memory and
one into files. All three come from the same deliveries. A preview prints the delivery of its type
or tells the error that the check reports for it; the two passes hand over the same deliveries and
differ only in what the file system refuses. This holds for all courses that the two passes can
take, also where types are worked on at the same time. -/

namespace RecordBean.Agreement
open RecordBean.Generation RecordBean.Interleaving RecordBean.Outcome RecordBean.Text

/-- What the three commands are given in common. -/
structure Request where
  tree : FileTree
  input : String
  config : Option String
  logLevel : Option String
  environment : Option String

namespace Request

def outcome (r : Request) (c : Command) : Outcome :=
  (Invocation.mk r.logLevel c).run r.environment r.tree

def preview (r : Request) (name : String) : Outcome := r.outcome (.preview r.input name r.config)

def check (r : Request) : Outcome := r.outcome (.check r.input r.config)

def generate (r : Request) (output : Option String) (parallel : Bool) : Outcome :=
  r.outcome (.generate r.input output r.config parallel)

/-- What the two documents hold, if they can be loaded. -/
structure Loads (r : Request) (settings : Settings) (catalog : Catalog) : Prop where
  settings : Command.loadSettings r.tree r.config = .ok settings
  catalog : Command.loadCatalog r.tree r.input = .ok catalog

/-- The settings of a command that generates, with its options. -/
def generateSettings (r : Request) (settings : Settings) (output : Option String)
    (parallel : Bool) : Settings :=
  (Command.generate r.input output r.config parallel).adjust settings

/-- The log as it is shown. -/
def shownLog (r : Request) (settings : Settings) (lines : List Log.Line) : String :=
  Log.shown (Log.chooseFilter r.environment (r.logLevel.getD settings.logLevel))
    (Command.settingsLine r.tree r.config :: lines)

/-- The outcome of a command that comes to a result. -/
def concluded (r : Request) (settings : Settings) (c : Command) (result : CommandResult) :
    Outcome :=
  (Invocation.mk r.logLevel c).conclude r.environment r.tree (c.adjust settings) result

end Request

/-- The pass inside the command that checks. -/
def checkPass (catalog : Catalog) (settings : Settings) : Report × Workplace Store :=
  run (Store.sink []) catalog settings (.start .empty)

/-- What that pass can come to where types are worked on at the same time. -/
abbrev CheckCourse (catalog : Catalog) (settings : Settings) : Type :=
  Course (Store.sink []) catalog settings (.start .empty)

/-- What the pass inside the command that generates can come to. -/
abbrev GenerateCourse (t : FileTree) (catalog : Catalog) (settings : Settings) : Type :=
  Course (FileTree.sink settings.outputDir) catalog settings (.start t)

/-- The outcome of a check whose pass takes a course. -/
def Request.checkBy (r : Request) {settings : Settings} {catalog : Catalog}
    (course : CheckCourse catalog settings) : Outcome :=
  r.concluded settings (.check r.input r.config)
    (Command.checkResult r.tree r.input catalog course.pass)

/-- The outcome of a command that generates and whose pass takes a course. -/
def Request.generateBy (r : Request) (settings : Settings) (output : Option String)
    (parallel : Bool) {catalog : Catalog}
    (course : GenerateCourse r.tree catalog (r.generateSettings settings output parallel)) :
    Outcome :=
  r.concluded settings (.generate r.input output r.config parallel)
    (Command.generateResult r.input (r.generateSettings settings output parallel) catalog
      course.pass)

/-! ## What is printed -/

/-- The line of a check about a type that failed. -/
def complaintLine (failure : String × GenerationError) : String :=
  "  error: " ++ ("Failed to beanerate `" ++ failure.1 ++ "`: " ++ failure.2.message)

/-- The lines of a check about the types that failed. -/
def complaintsIn (w : Workplace Store) : List String :=
  (Diagnostic.withSeverity .error (diagnosticsOf w.events)).map ("  error: " ++ ·.message)

/-- The last line of a check that finds nothing wrong. -/
def verdict (catalog : Catalog) (report : Report) : String :=
  if report.isSuccess then
    "Catalog is valid: " ++ toString catalog.size ++ " type(s), " ++ toString report.attempted
      ++ " marked\n"
  else ""

/-- A text with all lines but the first one moved in by four columns. -/
def hanging (text : String) : String :=
  String.ofList (text.toList.flatMap fun c => if c = '\n' then "\n    ".toList else [c])

/-- How a failure with one cause is told. -/
def failureText (headline cause : String) : String :=
  "Error: " ++ headline ++ "\n\nCaused by:\n    " ++ hanging cause ++ "\n"

theorem text_of_cause (headline cause : String) :
    Trouble.text ⟨headline, [cause]⟩ = failureText headline cause := by
  have hcause : indentRest 4 cause = hanging cause :=
    String.toList_injective (by
      unfold indentRest hanging
      rw [Path.toList_joined_split, String.toList_ofList]
      rfl)
  have htext : Trouble.text ⟨headline, [cause]⟩ =
      "Error: " ++ headline ++ ("\n\nCaused by:\n    " ++ indentRest 4 cause) ++ "\n" := rfl
  unfold failureText
  rw [htext, hcause]
  simp only [String.append_assoc]

section
variable {r : Request} {catalog : Catalog} {settings : Settings}

/-! ## From the result of a command to its outcome -/

/-- What a command does once its settings are loaded. -/
def resultOf (r : Request) (settings : Settings) (c : Command) : CommandResult :=
  c.perform r.tree (c.adjust settings)

theorem logLevel_adjust (c : Command) (settings : Settings) :
    (c.adjust settings).logLevel = settings.logLevel := by
  cases c <;> rfl

/-- The outcome of a command is its result, with the trouble at the end of the error stream. -/
theorem concluded_eq {c : Command} (hc : c.config? = r.config) (result : CommandResult) :
    r.concluded settings c result =
      ⟨if result.trouble.isNone then 0 else 1, result.output,
        r.shownLog settings result.log ++ unlines result.remarks ++
          (result.trouble.map Trouble.text).getD "", result.tree⟩ := by
  unfold Request.concluded Invocation.conclude Request.shownLog
  simp only [hc, logLevel_adjust]
  cases result.trouble with
  | none => simp
  | some trouble => rfl

theorem status_concluded {c : Command} (hc : c.config? = r.config) (result : CommandResult) :
    (r.concluded settings c result).status = 0 ↔ result.trouble = none := by
  rw [concluded_eq hc]
  cases result.trouble <;> simp

theorem output_concluded {c : Command} (hc : c.config? = r.config) (result : CommandResult) :
    (r.concluded settings c result).output = result.output := by
  rw [concluded_eq hc]

theorem outcome_eq {c : Command} (hc : c.config? = r.config) (hr : r.Loads settings catalog) :
    r.outcome c = r.concluded settings c (resultOf r settings c) := by
  unfold Request.outcome Invocation.run Request.concluded resultOf
  simp only [hc, hr.settings]

/-! ## Previews -/

variable (catalog settings) in
theorem report_checkPass : (checkPass catalog settings).1 = unrefusedReport catalog settings := by
  unfold checkPass
  rw [← Course.pass_sequential]
  exact Course.report_store_nil _

theorem result_preview (hr : r.Loads settings catalog) (name : String) :
    resultOf r settings (.preview r.input name r.config) =
      match Command.previewSource catalog settings name with
      | .error trouble => ⟨[], "", [], some trouble, r.tree⟩
      | .ok source => ⟨[], source, [], none, r.tree⟩ := by
  change Command.runPreview r.tree r.input name settings = _
  unfold Command.runPreview
  cases hp : Command.previewSource catalog settings name <;> simp only [hr.catalog, hp]

/-- For a marked type, a preview does by itself what a delivery is made of. -/
theorem previewSource_of_eligible {h : HostType} (hh : h ∈ catalog.eligible) :
    Command.previewSource catalog settings h.name =
      match deliveryOf catalog settings h with
      | .ok d => .ok d.source
      | .error (.extract e) => .error ⟨"Failed to extract record: " ++ h.name, [e.message]⟩
      | .error (.render e) => .error ⟨"Failed to render bean for: " ++ h.name, [e.message]⟩
      | .error (.emit e) => .error ⟨e.message, []⟩ := by
  obtain ⟨hm, hmarked⟩ := List.mem_filter.mp hh
  have hget : catalog.get? h.name = some h := get?_eq_some_iff.mpr ⟨hm, rfl⟩
  unfold Command.previewSource deliveryOf prepare
  simp only [hget, if_pos hmarked]
  cases extract catalog settings h with
  | error e => rfl
  | ok s =>
    simp only
    cases renderOwn s settings.header with
    | error e => rfl
    | ok source => rfl

/-- A name that is not the one of a marked type has no preview. -/
theorem exists_eligible_of_previewSource {name source : String}
    (hp : Command.previewSource catalog settings name = .ok source) :
    ∃ h ∈ catalog.eligible, h.name = name := by
  unfold Command.previewSource at hp
  cases hget : catalog.get? name with
  | none =>
    rw [hget] at hp
    cases hp
  | some h =>
    obtain ⟨hm, hn⟩ := get?_eq_some_iff.mp hget
    rw [hget] at hp
    by_cases hmarked : h.isMarked = true
    · exact ⟨h, List.mem_filter.mpr ⟨hm, hmarked⟩, hn⟩
    · simp only [if_neg hmarked] at hp
      cases hp

theorem previewSource_eq_ok_iff {name source : String} :
    Command.previewSource catalog settings name = .ok source ↔
      ∃ h ∈ catalog.eligible, h.name = name ∧
        ∃ d, deliveryOf catalog settings h = .ok d ∧ d.source = source := by
  constructor
  · intro hp
    obtain ⟨h, hh, rfl⟩ := exists_eligible_of_previewSource hp
    refine ⟨h, hh, rfl, ?_⟩
    rw [previewSource_of_eligible hh] at hp
    split at hp
    · rename_i d hd
      cases hp
      exact ⟨d, hd, rfl⟩
    all_goals cases hp
  · rintro ⟨h, hh, rfl, d, hd, rfl⟩
    rw [previewSource_of_eligible hh, hd]

/-- A marked type has a preview exactly if it is reported as generated where nothing is refused. -/
theorem exists_previewSource_iff {h : HostType} (hh : h ∈ catalog.eligible) :
    (∃ source, Command.previewSource catalog settings h.name = .ok source) ↔
      h.name ∉ (unrefusedReport catalog settings).failed.map Prod.fst ∧
        ∃ s, extract catalog settings h = .ok s ∧
          s.beanQualifiedName ∈ (unrefusedReport catalog settings).generated := by
  rw [← exists_deliveryOf_iff hh]
  constructor
  · rintro ⟨source, hp⟩
    obtain ⟨k, hk, hn, d, hd, -⟩ := previewSource_eq_ok_iff.mp hp
    rw [eq_of_name_eq (mem_types_of_mem_eligible hk) (mem_types_of_mem_eligible hh) hn] at hd
    obtain ⟨s, hs, -⟩ := deliveryOf_eq_ok_iff.mp hd
    refine ⟨⟨d, hd⟩, s, hs, ?_⟩
    rw [← qualifiedName_of_extract hs hd]
    exact mem_generated_unrefusedReport hh hd
  · rintro ⟨⟨d, hd⟩, -⟩
    exact ⟨d.source, previewSource_eq_ok_iff.mpr ⟨h, hh, rfl, d, hd, rfl⟩⟩

/-! ## Passes -/

theorem withSeverity_toldAbout (hosts : List HostType) :
    (Diagnostic.withSeverity .error (toldAbout [] catalog settings hosts)).map
        ("  error: " ++ ·.message) =
      (failuresOf [] catalog settings hosts).map complaintLine := by
  induction hosts with
  | nil => rfl
  | cons h rest ih =>
    have hcons : toldAbout [] catalog settings (h :: rest) =
        told h (outcomeOf [] catalog settings h) ++ toldAbout [] catalog settings rest := rfl
    unfold Diagnostic.withSeverity at ih ⊢
    rw [hcons, failuresOf_cons, List.filter_append, List.map_append, List.map_append, ih]
    cases outcomeOf [] catalog settings h <;> rfl

variable (catalog settings) in
/-- The diagnostics that a check prints are about the failures that it counts. -/
theorem complaints_checkPass :
    complaintsIn (checkPass catalog settings).2 =
      (checkPass catalog settings).1.failed.map complaintLine := by
  obtain ⟨-, hfail, -, hdiag⟩ := run_spec [] catalog settings (.start .empty)
  unfold complaintsIn checkPass
  rw [hfail, hdiag]
  exact withSeverity_toldAbout catalog.eligible

theorem passUnder_agrees {schedule : List HostType}
    (hs : Interleaves (Store.sink []) catalog settings (.start .empty) schedule) :
    Interleaving.Agrees [] catalog settings
      ((opened catalog settings (.start .empty)).follow (Store.sink []) catalog settings schedule)
      (checkPass catalog settings).1 (checkPass catalog settings).2 :=
  ((Underway.opened [] catalog settings []).follow hs.marked).agrees hs.ended

/-- A schedule changes the order of the complaints at most. -/
theorem complaintsIn_perm {schedule : List HostType}
    (hs : Interleaves (Store.sink []) catalog settings (.start .empty) schedule) :
    (complaintsIn (passUnder (Store.sink []) catalog settings (.start .empty) schedule).2).Perm
      ((checkPass catalog settings).1.failed.map complaintLine) := by
  rw [← complaints_checkPass]
  exact ((passUnder_agrees hs).perm.filter _).map _

theorem checkResult_spec (t : FileTree) (input : String) (catalog : Catalog)
    (pass : Report × Workplace Store) :
    ((Command.checkResult t input catalog pass).trouble = none ↔ pass.1.failed = []) ∧
      (Command.checkResult t input catalog pass).output =
        unlines (("Checking catalog: " ++ input) :: pass.1.generated.map ("  ok: " ++ ·) ++
          complaintsIn pass.2) ++ verdict catalog pass.1 := by
  obtain ⟨report, w⟩ := pass
  unfold Command.checkResult verdict complaintsIn
  simp only
  cases hs : report.isSuccess with
  | true => simp [List.isEmpty_iff.mp hs]
  | false =>
    have hne : report.failed ≠ [] := List.isEmpty_eq_false_iff.mp hs
    simp [hne]

theorem generateResult_spec (input : String) (settings : Settings) (catalog : Catalog)
    (pass : Report × Workplace FileTree) :
    ((Command.generateResult input settings catalog pass).trouble = none ↔ pass.1.failed = []) ∧
      (Command.generateResult input settings catalog pass).output =
        unlines (("Generated " ++ toString pass.1.generated.length ++ " bean(s) into " ++
          settings.outputDir) :: pass.1.generated.map ("  " ++ ·)) := by
  obtain ⟨report, w⟩ := pass
  constructor
  · simp [Command.generateResult, Report.isSuccess]
  · rfl

/-! ## Agreement -/

/-- The two commands that run a pass take one type after another. This is one of the courses, and
the only one of settings that are not parallel. -/
structure TakeTurns (r : Request) (settings : Settings) (catalog : Catalog) : Prop where
  check : r.check = r.checkBy (.sequential (Store.sink []) catalog settings (.start .empty))
  check_only : settings.parallel = false → ∀ course : CheckCourse catalog settings,
    r.checkBy course = r.check
  check_handed : (Course.sequential (Store.sink []) catalog settings (.start .empty)).handedOver =
    deliveriesOf catalog settings catalog.eligible
  generate : ∀ output parallel, let adjusted := r.generateSettings settings output parallel
    r.generate output parallel = r.generateBy settings output parallel
      (.sequential (FileTree.sink adjusted.outputDir) catalog adjusted (.start r.tree))
  generate_only : ∀ output parallel, let adjusted := r.generateSettings settings output parallel
    adjusted.parallel = false → ∀ course : GenerateCourse r.tree catalog adjusted,
      r.generateBy settings output parallel course = r.generate output parallel
  generate_handed : ∀ output parallel, let adjusted := r.generateSettings settings output parallel
    (Course.sequential (FileTree.sink adjusted.outputDir) catalog adjusted
      (.start r.tree)).handedOver = deliveriesOf catalog settings catalog.eligible

/-- How the three commands agree when they are given the same documents, with any courses of the two
passes. -/
structure Agrees (r : Request) (settings : Settings) (catalog : Catalog) (output : Option String)
    (parallel : Bool) (check : CheckCourse catalog settings)
    (generate : GenerateCourse r.tree catalog (r.generateSettings settings output parallel)) :
    Prop where
  /-- A preview succeeds for the marked types whose beans the check lists as generated. -/
  preview_status : ∀ name, (r.preview name).status = 0 ↔
    ∃ h ∈ catalog.types, h.name = name ∧ h.isMarked = true ∧
      name ∉ check.report.failed.map Prod.fst ∧
      ∃ s, extract catalog settings h = .ok s ∧ s.beanQualifiedName ∈ check.report.generated
  /-- It prints the source that is delivered for the type. -/
  preview_output : ∀ h ∈ catalog.eligible, (r.preview h.name).status = 0 →
    ∃ d, deliveryOf catalog settings h = .ok d ∧ (r.preview h.name).output = d.source
  /-- Else it tells the error of the type that the check reports. -/
  preview_failure : ∀ h ∈ catalog.eligible, (r.preview h.name).status ≠ 0 →
    (r.preview h.name).output = "" ∧
      ((∃ e, (h.name, .extract e) ∈ check.report.failed ∧
          (r.preview h.name).errors = r.shownLog settings [] ++
            failureText ("Failed to extract record: " ++ h.name) e.message) ∨
        ∃ e, (h.name, .render e) ∈ check.report.failed ∧
          (r.preview h.name).errors = r.shownLog settings [] ++
            failureText ("Failed to render bean for: " ++ h.name) e.message)
  /-- Both passes hand over the deliveries of the marked types. -/
  check_handed : check.handedOver.Perm (deliveriesOf catalog settings catalog.eligible)
  generate_handed : generate.handedOver.Perm (deliveriesOf catalog settings catalog.eligible)
  /-- Unless a delivery is refused, the two reports are the same. -/
  reports : (∀ failure ∈ generate.report.failed, ¬ IsRefusal failure.2) →
    generate.report = check.report
  check_status : (r.checkBy check).status = 0 ↔ check.report.failed = []
  generate_status :
    (r.generateBy settings output parallel generate).status = 0 ↔ generate.report.failed = []
  /-- The order of the lines about failures is left open. -/
  check_output : ∃ complaints, complaints.Perm (check.report.failed.map complaintLine) ∧
    (r.checkBy check).output = unlines (("Checking catalog: " ++ r.input) ::
      check.report.generated.map ("  ok: " ++ ·) ++ complaints) ++ verdict catalog check.report
  generate_output : (r.generateBy settings output parallel generate).output =
    unlines (("Generated " ++ toString generate.report.generated.length ++ " bean(s) into " ++
      (r.generateSettings settings output parallel).outputDir) ::
        generate.report.generated.map ("  " ++ ·))
  /-- The beans are listed in catalog order, one for every marked type that did not fail. -/
  check_order : check.report.generated =
    (catalog.eligible.filter (passed check.report.failed)).filterMap
      (reportedName? catalog settings)
  generate_order : generate.report.generated =
    (catalog.eligible.filter (passed generate.report.failed)).filterMap
      (reportedName? catalog settings)

/-- The options of a command that generates have no part in what is delivered. -/
theorem deliveryOf_generateSettings (output : Option String) (parallel : Bool) :
    deliveryOf catalog (r.generateSettings settings output parallel) =
      deliveryOf catalog settings := funext fun h => deliveryOf_congr catalog rfl rfl h

theorem deliveriesOf_generateSettings (output : Option String) (parallel : Bool)
    (hosts : List HostType) :
    deliveriesOf catalog (r.generateSettings settings output parallel) hosts =
      deliveriesOf catalog settings hosts := by
  unfold deliveriesOf
  rw [deliveryOf_generateSettings]

theorem preview_status_iff (hr : r.Loads settings catalog) (name : String) :
    (r.preview name).status = 0 ↔
      ∃ source, Command.previewSource catalog settings name = .ok source := by
  unfold Request.preview
  rw [outcome_eq rfl hr, status_concluded rfl, result_preview hr]
  cases Command.previewSource catalog settings name <;> simp

theorem preview_output_eq (hr : r.Loads settings catalog) {name source : String}
    (hp : Command.previewSource catalog settings name = .ok source) :
    (r.preview name).output = source := by
  unfold Request.preview
  rw [outcome_eq rfl hr, output_concluded rfl, result_preview hr, hp]

theorem preview_of_trouble (hr : r.Loads settings catalog) {name : String} {trouble : Trouble}
    (hp : Command.previewSource catalog settings name = .error trouble) :
    (r.preview name).output = "" ∧
      (r.preview name).errors = r.shownLog settings [] ++ trouble.text := by
  unfold Request.preview
  rw [outcome_eq rfl hr, concluded_eq rfl, result_preview hr, hp]
  simp [unlines]

theorem preview_failure_of_deliveryOf (hr : r.Loads settings catalog) {h : HostType}
    (hh : h ∈ catalog.eligible) {e : GenerationError}
    (hd : deliveryOf catalog settings h = .error e) :
    (h.name, e) ∈ (unrefusedReport catalog settings).failed ∧ (r.preview h.name).output = "" ∧
      ((∃ x, e = .extract x ∧ (r.preview h.name).errors = r.shownLog settings [] ++
          failureText ("Failed to extract record: " ++ h.name) x.message) ∨
        ∃ x, e = .render x ∧ (r.preview h.name).errors = r.shownLog settings [] ++
          failureText ("Failed to render bean for: " ++ h.name) x.message) := by
  have hfailed : (h.name, e) ∈ (unrefusedReport catalog settings).failed :=
    mem_failed_unrefusedReport.mpr ⟨h, hh, rfl, hd⟩
  have hp : Command.previewSource catalog settings h.name = _ := previewSource_of_eligible hh
  rw [hd] at hp
  cases e with
  | extract x =>
    obtain ⟨hout, herr⟩ := preview_of_trouble hr hp
    rw [text_of_cause] at herr
    exact ⟨hfailed, hout, Or.inl ⟨x, rfl, herr⟩⟩
  | render x =>
    obtain ⟨hout, herr⟩ := preview_of_trouble hr hp
    rw [text_of_cause] at herr
    exact ⟨hfailed, hout, Or.inr ⟨x, rfl, herr⟩⟩
  | emit x => exact absurd trivial (not_isRefusal_of_deliveryOf hd)

end

section
variable {r : Request} {catalog : Catalog} {settings : Settings} (hr : r.Loads settings catalog)
include hr

theorem resultOf_check : resultOf r settings (.check r.input r.config) =
    Command.checkResult r.tree r.input catalog (checkPass catalog settings) := by
  have hresult : resultOf r settings (.check r.input r.config) =
      Command.runCheck r.tree r.input settings := rfl
  rw [hresult]
  unfold Command.runCheck
  rw [hr.catalog]
  rfl

theorem check_eq : r.check = r.concluded settings (.check r.input r.config)
    (Command.checkResult r.tree r.input catalog (checkPass catalog settings)) := by
  unfold Request.check
  rw [outcome_eq rfl hr, resultOf_check hr]

theorem generate_eq (output : Option String) (parallel : Bool) :
    let adjusted := r.generateSettings settings output parallel
    r.generate output parallel = r.concluded settings (.generate r.input output r.config parallel)
      (Command.generateResult r.input adjusted catalog
        (run (FileTree.sink adjusted.outputDir) catalog adjusted (.start r.tree))) := by
  intro adjusted
  have hresult : resultOf r settings (.generate r.input output r.config parallel) =
      Command.runGenerate r.tree r.input adjusted := rfl
  unfold Request.generate
  rw [outcome_eq rfl hr, hresult]
  unfold Command.runGenerate
  rw [hr.catalog]

theorem take_turns : TakeTurns r settings catalog where
  check := by
    unfold Request.checkBy
    rw [check_eq hr, Course.pass_sequential]
    rfl
  check_only hno course := by
    unfold Request.checkBy
    rw [check_eq hr, course.pass_of_not_parallel hno]
    rfl
  check_handed := Course.handedOver_sequential ..
  generate output parallel := by
    intro adjusted
    unfold Request.generateBy
    rw [generate_eq hr, Course.pass_sequential]
  generate_only output parallel := by
    intro adjusted hno course
    unfold Request.generateBy
    rw [generate_eq hr, course.pass_of_not_parallel hno]
  generate_handed output parallel :=
    (Course.handedOver_sequential ..).trans (deliveriesOf_generateSettings output parallel _)

theorem agrees (output : Option String) (parallel : Bool) (check : CheckCourse catalog settings)
    (generate : GenerateCourse r.tree catalog (r.generateSettings settings output parallel)) :
    Agrees r settings catalog output parallel check generate where
  preview_status name := by
    rw [preview_status_iff hr, check.report_store_nil]
    constructor
    · rintro ⟨source, hp⟩
      obtain ⟨h, hh, rfl⟩ := exists_eligible_of_previewSource hp
      obtain ⟨hn, s, hs, hg⟩ := (exists_previewSource_iff hh).mp ⟨source, hp⟩
      obtain ⟨hm, hmarked⟩ := List.mem_filter.mp hh
      exact ⟨h, hm, rfl, hmarked, hn, s, hs, hg⟩
    · rintro ⟨h, hm, rfl, hmarked, hn, s, hs, hg⟩
      have hh : h ∈ catalog.eligible := List.mem_filter.mpr ⟨hm, hmarked⟩
      exact (exists_previewSource_iff hh).mpr ⟨hn, s, hs, hg⟩
  preview_output h hh hok := by
    obtain ⟨source, hp⟩ := (preview_status_iff hr h.name).mp hok
    obtain ⟨k, hk, hn, d, hd, rfl⟩ := previewSource_eq_ok_iff.mp hp
    have hkh := eq_of_name_eq (mem_types_of_mem_eligible hk) (mem_types_of_mem_eligible hh) hn
    exact ⟨d, hkh ▸ hd, preview_output_eq hr hp⟩
  preview_failure h hh hno := by
    rw [check.report_store_nil]
    cases hd : deliveryOf catalog settings h with
    | ok d =>
      have hp := previewSource_eq_ok_iff.mpr ⟨h, hh, rfl, d, hd, rfl⟩
      exact absurd ((preview_status_iff hr h.name).mpr ⟨_, hp⟩) hno
    | error e =>
      obtain ⟨hf, hout, ⟨x, rfl, herr⟩ | ⟨x, rfl, herr⟩⟩ :=
        preview_failure_of_deliveryOf hr hh hd
      · exact ⟨hout, Or.inl ⟨x, hf, herr⟩⟩
      · exact ⟨hout, Or.inr ⟨x, hf, herr⟩⟩
  check_handed := check.handedOver_perm
  generate_handed := by
    rw [← deliveriesOf_generateSettings output parallel]
    exact generate.handedOver_perm
  reports hno := by
    rw [check.report_store_nil, generate.report_of_unrefused hno]
    unfold unrefusedReport unrefused
    rw [deliveryOf_generateSettings]
  check_status := (status_concluded rfl _).trans (checkResult_spec _ _ _ _).1
  generate_status := (status_concluded rfl _).trans (generateResult_spec _ _ _ _).1
  check_output := by
    refine ⟨complaintsIn check.after, ?_,
      (output_concluded rfl _).trans (checkResult_spec _ _ _ _).2⟩
    rw [check.report_store_nil, ← report_checkPass]
    exact complaintsIn_perm check.possible.interleaves
  generate_output := (output_concluded rfl _).trans (generateResult_spec _ _ _ _).2
  check_order := check.generated_eq
  generate_order := by
    have hname : reportedName? catalog (r.generateSettings settings output parallel) =
        reportedName? catalog settings := by
      unfold reportedName?
      rw [deliveryOf_generateSettings]
    rw [← hname]
    exact generate.generated_eq

end

/-- Once the catalog and the configuration are loaded, the three commands agree, whichever courses
their passes take. -/
theorem commands_agree (r : Request) (settings : Settings) (catalog : Catalog)
    (hr : r.Loads settings catalog) : TakeTurns r settings catalog ∧
      ∀ output parallel (check : CheckCourse catalog settings)
        (generate : GenerateCourse r.tree catalog (r.generateSettings settings output parallel)),
        Agrees r settings catalog output parallel check generate :=
  ⟨take_turns hr, agrees hr⟩

/-- A record with a bean, and a class, which has none although it is marked. -/
def sampleText : String :=
  "\x7b\"types\":[\x7b\"name\":\"a.B\",\"kind\":\"record\",\"beanerate\":\x7b\x7d\x7d," ++
    "\x7b\"name\":\"C\",\"kind\":\"class\",\"beanerate\":\x7b\x7d\x7d]\x7d"

def sample : Request where
  tree := (FileTree.empty []).put ["c.json"] (.file (.text sampleText))
  input := "c.json"
  config := none
  logLevel := none
  environment := none

theorem sample_agrees : ∃ catalog, sample.Loads .default catalog ∧
    catalog.types.map (·.name) = ["a.B", "C"] ∧ TakeTurns sample .default catalog ∧
      ∀ output parallel (check : CheckCourse catalog .default)
        (generate : GenerateCourse sample.tree catalog
          (sample.generateSettings .default output parallel)),
        Agrees sample .default catalog output parallel check generate := by
  have hnames : (Command.loadCatalog sample.tree sample.input).toOption.map
      (·.types.map (·.name)) = some ["a.B", "C"] := by decide +kernel
  cases hc : Command.loadCatalog sample.tree sample.input with
  | error trouble =>
    rw [hc] at hnames
    cases hnames
  | ok catalog =>
    rw [hc] at hnames
    have hr : sample.Loads .default catalog := ⟨rfl, hc⟩
    exact ⟨catalog, hr, Option.some.inj hnames, commands_agree sample .default catalog hr⟩

end RecordBean.Agreement
