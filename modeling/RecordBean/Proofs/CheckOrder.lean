import Mathlib.Data.List.Perm.Basic
import RecordBean.Proofs.Agreement
import RecordBean.Proofs.Interleaving

/-! # What a check prints when types are worked on at the same time

A check prints two lists. The beans come from the report, which is in catalog order under every
schedule. The complaints come from the diagnostics, in the order in which the types reported them.
So a schedule can permute the complaints and nothing else. Where types are worked on at the same
time every order of them comes about (`orders_possible`), and what is printed depends on the
schedule as soon as two types fail with lines that do not commute. -/

namespace RecordBean.CheckOrder
open RecordBean.Generation RecordBean.Interleaving RecordBean.Agreement RecordBean.Text

/-! ## A check under a schedule -/

/-- The lines of a check, with given complaints. -/
def outputLines (input : String) (generated complaints : List String) : List String :=
  ("Checking catalog: " ++ input) :: generated.map ("  ok: " ++ ·) ++ complaints

section
variable (catalog : Catalog) (settings : Settings)

/-- A schedule that the command can follow. -/
abbrev IsPossible (schedule : List HostType) : Prop :=
  Interleaving.IsPossible (Store.sink []) catalog settings (.start .empty) schedule

/-- The pass inside the command that checks, under a schedule. -/
abbrev passUnder (schedule : List HostType) : Report × Workplace Store :=
  Interleaving.passUnder (Store.sink []) catalog settings (.start .empty) schedule

variable {catalog settings} {schedule hosts : List HostType}

theorem report_passUnder
    (hs : Interleaves (Store.sink []) catalog settings (.start .empty) schedule) :
    (passUnder catalog settings schedule).1 = (checkPass catalog settings).1 :=
  (passUnder_agrees hs).report_eq

/-! ## Types in another order -/

theorem workplace_inOrder (hp : hosts.Perm catalog.eligible) :
    (passUnder catalog settings (inOrder hosts)).2 =
      (generateEach (Store.sink []) catalog settings hosts
        (opened catalog settings (.start .empty)).workplace).2 :=
  (follow_inOrder _ _ _ (hp.nodup_iff.mpr (nodup_eligible catalog)) _ fun _ _ => rfl).1

/-- One type after another is the pass of the command as it stands. -/
theorem passUnder_inOrder : passUnder catalog settings (inOrder catalog.eligible) =
    checkPass catalog settings :=
  Course.pass_sequential (Store.sink []) catalog settings (.start .empty)

/-- The complaints come in the order in which the types had their turns. -/
theorem complaintsIn_inOrder (hp : hosts.Perm catalog.eligible) :
    complaintsIn (passUnder catalog settings (inOrder hosts)).2 =
      (failuresOf [] catalog settings hosts).map complaintLine := by
  obtain ⟨-, -, hdiag⟩ := generateEach_spec [] catalog settings hosts
    (opened catalog settings (.start .empty)).workplace
  unfold complaintsIn
  rw [workplace_inOrder hp, hdiag, ← withSeverity_toldAbout]
  rfl

end

/-! ## Lines that commute -/

/-- Whether two lines give the same text in either order. -/
def LinesCommute (a b : String) : Prop := unlines [a, b] = unlines [b, a]

theorem unlines_eq_foldr (ls : List String) :
    unlines ls = ls.foldr (fun l text => l ++ "\n" ++ text) "" := by
  induction ls with
  | nil => rfl
  | cons l ls ih => rw [unlines, List.foldr_cons, ih]

/-- The lines behind two lines have no part in whether these commute. -/
theorem commute_of_behind {a b : String} {rest : List String}
    (h : unlines (a :: b :: rest) = unlines (b :: a :: rest)) : LinesCommute a b := by
  have hbehind : unlines ([a, b] ++ rest) = unlines ([b, a] ++ rest) := h
  rw [unlines_append, unlines_append, String.append_left_inj] at hbehind
  exact hbehind

/-- Lines of which any two commute give the same text in every order. -/
theorem unlines_eq_of_perm {a b : List String} (hp : a.Perm b)
    (hc : ∀ x ∈ a, ∀ y ∈ a, LinesCommute x y) : unlines a = unlines b := by
  rw [unlines_eq_foldr, unlines_eq_foldr]
  refine hp.foldr_eq' (fun x hx y hy text => ?_) ""
  have hxy : y ++ "\n" ++ (x ++ "\n") = x ++ "\n" ++ (y ++ "\n") := by
    simpa [LinesCommute, unlines, String.append_assoc] using hc y hy x hx
  rw [← String.append_assoc, hxy, String.append_assoc]

/-! ## The output -/

section
variable {r : Request} {catalog : Catalog} {settings : Settings} {schedule : List HostType}

/-- The result of the check under a schedule. -/
def resultUnder (r : Request) (catalog : Catalog) (settings : Settings)
    (schedule : List HostType) : CommandResult :=
  Command.checkResult r.tree r.input catalog (passUnder catalog settings schedule)

/-- The text that a check prints, with given complaints. -/
def printed (r : Request) (catalog : Catalog) (settings : Settings)
    (complaints : List String) : String :=
  unlines (outputLines r.input ((beansOf [] catalog settings catalog.eligible).map Bean.name)
    complaints) ++ verdict catalog (checkPass catalog settings).1

/-- Whether a check fails, and with which numbers, is a matter of the report. -/
theorem trouble_checkResult (t : FileTree) (input : String) (catalog : Catalog)
    (pass : Report × Workplace Store) :
    (Command.checkResult t input catalog pass).trouble =
      if pass.1.isSuccess then none else
        some ⟨toString pass.1.failed.length ++ " of " ++ toString pass.1.attempted
          ++ " marked type(s) would fail", []⟩ := by
  obtain ⟨report, w⟩ := pass
  unfold Command.checkResult
  simp only
  split <;> rfl

theorem resultOf_check_inOrder (hr : r.Loads settings catalog) :
    resultOf r settings (.check r.input r.config) =
      resultUnder r catalog settings (inOrder catalog.eligible) := by
  rw [resultOf_check hr, resultUnder, passUnder_inOrder]

theorem output_resultUnder
    (hs : Interleaves (Store.sink []) catalog settings (.start .empty) schedule) :
    (resultUnder r catalog settings schedule).output =
      printed r catalog settings (complaintsIn (passUnder catalog settings schedule).2) := by
  have hgenerated := (run_spec [] catalog settings (.start .empty)).1
  unfold resultUnder printed outputLines
  rw [(checkResult_spec ..).2, report_passUnder hs, ← hgenerated]
  rfl

/-- Whether the order of the complaints cannot be seen. -/
def ComplaintsCommute (catalog : Catalog) (settings : Settings) : Prop :=
  ∀ a ∈ failuresOf [] catalog settings catalog.eligible,
    ∀ b ∈ failuresOf [] catalog settings catalog.eligible,
      LinesCommute (complaintLine a) (complaintLine b)

theorem failed_checkPass (catalog : Catalog) (settings : Settings) :
    (checkPass catalog settings).1.failed = failuresOf [] catalog settings catalog.eligible :=
  (run_spec [] catalog settings (.start .empty)).2.1

theorem printed_eq_iff (r : Request) (catalog : Catalog) (settings : Settings)
    {a b : List String} :
    printed r catalog settings a = printed r catalog settings b ↔ unlines a = unlines b := by
  simp [printed, outputLines, unlines]

/-- Where types are worked on at the same time, the complaints come in every order. -/
theorem orders_possible (hparallel : settings.parallel = true) {hosts : List HostType}
    (hp : hosts.Perm catalog.eligible) :
    IsPossible catalog settings (inOrder hosts) ∧
      (resultUnder r catalog settings (inOrder hosts)).output =
        printed r catalog settings ((failuresOf [] catalog settings hosts).map complaintLine) := by
  refine ⟨⟨interleaves_inOrder _ _ _ _ hp, ?_⟩, ?_⟩
  · intro hno
    rw [hparallel] at hno
    cases hno
  · rw [output_resultUnder (interleaves_inOrder _ _ _ _ hp), complaintsIn_inOrder hp]

/-- Two types can be put in front of the others, in either order. -/
theorem exists_swap {h k : HostType} (hh : h ∈ catalog.eligible) (hk : k ∈ catalog.eligible)
    (hne : h ≠ k) : ∃ rest, (h :: k :: rest).Perm catalog.eligible ∧
      (k :: h :: rest).Perm catalog.eligible := by
  have hke : k ∈ catalog.eligible.erase h := (List.mem_erase_of_ne (Ne.symm hne)).mpr hk
  have hp : (h :: k :: (catalog.eligible.erase h).erase k).Perm catalog.eligible :=
    ((List.perm_cons_erase hke).symm.cons h).trans (List.perm_cons_erase hh).symm
  exact ⟨_, hp, (List.Perm.swap h k _).trans hp⟩

theorem eq_of_length_le_one {α : Type} {l : List α} (h : l.length ≤ 1) {a b : α} (ha : a ∈ l)
    (hb : b ∈ l) : a = b := by
  match l, h with
  | [c], _ => rw [List.mem_singleton.mp ha, List.mem_singleton.mp hb]

/-- If the output is the same under all schedules, then it is under two that differ in one swap. -/
theorem commute_of_same (hparallel : settings.parallel = true) {text : String}
    (hsame : ∀ schedule, IsPossible catalog settings schedule →
      (resultUnder r catalog settings schedule).output = text) :
    ComplaintsCommute catalog settings := by
  intro a ha b hb
  obtain ⟨h, hh, hfa⟩ := List.mem_filterMap.mp ha
  obtain ⟨k, hk, hfb⟩ := List.mem_filterMap.mp hb
  by_cases hhk : h = k
  · subst hhk
    rw [Option.some.inj (hfa.symm.trans hfb)]
    rfl
  · obtain ⟨rest, hp, hp'⟩ := exists_swap hh hk hhk
    obtain ⟨hposs, hout⟩ := orders_possible (r := r) hparallel hp
    obtain ⟨hposs', hout'⟩ := orders_possible (r := r) hparallel hp'
    rw [hsame _ hposs] at hout
    rw [hsame _ hposs', hout, printed_eq_iff] at hout'
    simp only [failuresOf_cons, hfa, hfb, Option.toList_some, List.singleton_append,
      List.map_cons] at hout'
    exact commute_of_behind hout'

end

/-- What the check of a request can print and how it can end, over all schedules that the command
can follow. -/
structure Prints (r : Request) (settings : Settings) (catalog : Catalog) : Prop where
  /-- One type after another is one of the schedules, and the one that the command follows here. -/
  sequential : IsPossible catalog settings (inOrder catalog.eligible) ∧
    resultOf r settings (.check r.input r.config) =
      resultUnder r catalog settings (inOrder catalog.eligible)
  /-- It prints the complaints in catalog order. -/
  catalog_order : r.check.output = printed r catalog settings
    ((failuresOf [] catalog settings catalog.eligible).map complaintLine)
  /-- Under every schedule the beans come in catalog order, and every failure has its complaint. -/
  output : ∀ schedule, IsPossible catalog settings schedule → ∃ complaints,
    complaints.Perm ((failuresOf [] catalog settings catalog.eligible).map complaintLine) ∧
      (resultUnder r catalog settings schedule).output = printed r catalog settings complaints
  trouble : ∀ schedule, IsPossible catalog settings schedule →
    (resultUnder r catalog settings schedule).trouble =
      (resultOf r settings (.check r.input r.config)).trouble
  /-- Types that are worked on at the same time can complain in every order. -/
  orders : settings.parallel = true → ∀ hosts : List HostType, hosts.Perm catalog.eligible →
    ∃ schedule, IsPossible catalog settings schedule ∧
      (resultUnder r catalog settings schedule).output =
        printed r catalog settings ((failuresOf [] catalog settings hosts).map complaintLine)
  same_iff : (∀ schedule, IsPossible catalog settings schedule →
      (resultUnder r catalog settings schedule).output = r.check.output) ↔
    settings.parallel = false ∨ ComplaintsCommute catalog settings
  /-- A single failure has nothing to change places with. -/
  same_of_one : (failuresOf [] catalog settings catalog.eligible).length ≤ 1 →
    ∀ schedule, IsPossible catalog settings schedule →
      (resultUnder r catalog settings schedule).output = r.check.output

section
variable {r : Request} {catalog : Catalog} {settings : Settings} (hr : r.Loads settings catalog)
include hr

theorem output_check : r.check.output =
    (resultUnder r catalog settings (inOrder catalog.eligible)).output := by
  rw [check_eq hr, output_concluded rfl, resultUnder, passUnder_inOrder]

theorem output_check_eq : r.check.output = printed r catalog settings
    ((failuresOf [] catalog settings catalog.eligible).map complaintLine) := by
  rw [output_check hr, output_resultUnder (interleaves_inOrder _ _ _ _ (List.Perm.refl _)),
    complaintsIn_inOrder (List.Perm.refl _)]

theorem same_of_commute (hc : ComplaintsCommute catalog settings) {schedule : List HostType}
    (hs : IsPossible catalog settings schedule) :
    (resultUnder r catalog settings schedule).output = r.check.output := by
  have hperm := complaintsIn_perm hs.interleaves
  rw [failed_checkPass] at hperm
  rw [output_resultUnder hs.interleaves, output_check_eq hr, printed_eq_iff]
  refine (unlines_eq_of_perm hperm.symm fun x hx y hy => ?_).symm
  obtain ⟨a, ha, rfl⟩ := List.mem_map.mp hx
  obtain ⟨b, hb, rfl⟩ := List.mem_map.mp hy
  exact hc a ha b hb

end

/-- A check tells the same about the same types under every schedule, in catalog order as far as the
beans go. The complaints stand in the order of the schedule, which shows exactly where types are
worked on at the same time and the lines of two failures do not commute. -/
theorem check_prints (r : Request) (settings : Settings) (catalog : Catalog)
    (hr : r.Loads settings catalog) : Prints r settings catalog where
  sequential :=
    ⟨⟨interleaves_inOrder _ _ _ _ (List.Perm.refl _), fun _ => rfl⟩, resultOf_check_inOrder hr⟩
  catalog_order := output_check_eq hr
  output schedule hs := by
    rw [← failed_checkPass]
    exact ⟨_, complaintsIn_perm hs.interleaves, output_resultUnder hs.interleaves⟩
  trouble schedule hs := by
    rw [resultOf_check hr]
    unfold resultUnder
    rw [trouble_checkResult, trouble_checkResult,
      report_passUnder hs.interleaves]
  orders hparallel hosts hp := ⟨_, orders_possible hparallel hp⟩
  same_iff := by
    constructor
    · intro hsame
      cases hparallel : settings.parallel with
      | false => exact Or.inl rfl
      | true => exact Or.inr (commute_of_same hparallel hsame)
    · rintro (hno | hc) schedule hs
      · rw [hs.ordered hno, output_check hr]
      · exact same_of_commute hr hc hs
  same_of_one hone schedule hs := by
    refine same_of_commute hr (fun a ha b hb => ?_) hs
    rw [eq_of_length_le_one hone ha hb]
    rfl

/-! ## Two failures that change places -/

/-- Two classes, which have no bean although they are marked. -/
def rivals : Catalog where
  types := [⟨"A", .class, [], none, some .plain, []⟩, ⟨"B", .class, [], none, some .plain, []⟩]
  distinct := by decide

def rivalsText : String :=
  "\x7b\"types\":[\x7b\"name\":\"A\",\"kind\":\"class\",\"beanerate\":\x7b\x7d\x7d," ++
    "\x7b\"name\":\"B\",\"kind\":\"class\",\"beanerate\":\x7b\x7d\x7d]\x7d"

/-- A check of the two classes at the same time. -/
def race : Request where
  tree := ((FileTree.empty []).put ["c.json"] (.file (.text rivalsText))).put ["b.toml"]
    (.file (.text "parallel = true"))
  input := "c.json"
  config := some "b.toml"
  logLevel := none
  environment := none

def eager : Settings := { Settings.default with parallel := true }

theorem race_loads : race.Loads eager rivals := by
  have hsettings : (Command.loadSettings race.tree race.config).toOption = some eager := by
    decide +kernel
  have htypes : (Command.loadCatalog race.tree race.input).toOption.map (·.types) =
      some rivals.types := by decide +kernel
  constructor
  · cases hs : Command.loadSettings race.tree race.config with
    | error trouble => simp [hs, Except.toOption] at hsettings
    | ok settings => rw [hs] at hsettings; exact congrArg _ (Option.some.inj hsettings)
  · cases hc : Command.loadCatalog race.tree race.input with
    | error trouble => simp [hc, Except.toOption] at htypes
    | ok catalog =>
      rw [hc] at htypes
      obtain ⟨types, distinct⟩ := catalog
      obtain rfl : types = rivals.types := Option.some.inj htypes
      rfl

theorem race_prints : race.Loads eager rivals ∧ Prints race eager rivals :=
  ⟨race_loads, check_prints race eager rivals race_loads⟩

/-- The complaint about `B` can come first, although `A` is the first of the catalog. -/
theorem rivals_change_places : race.Loads eager rivals ∧
    race.check.output = unlines ["Checking catalog: c.json",
      "  error: Failed to beanerate `A`: extraction failed: `A` is a class, not a record",
      "  error: Failed to beanerate `B`: extraction failed: `B` is a class, not a record"] ∧
    ∃ schedule, IsPossible rivals eager schedule ∧
      (resultUnder race rivals eager schedule).output = unlines ["Checking catalog: c.json",
        "  error: Failed to beanerate `B`: extraction failed: `B` is a class, not a record",
        "  error: Failed to beanerate `A`: extraction failed: `A` is a class, not a record"] := by
  have hp : rivals.types.reverse.Perm rivals.eligible := List.reverse_perm _
  have hparallel : eager.parallel = true := rfl
  obtain ⟨hpossible, houtput⟩ := orders_possible (r := race) hparallel hp
  refine ⟨race_loads, ?_, inOrder rivals.types.reverse, hpossible, ?_⟩
  · rw [output_check_eq race_loads]
    decide +kernel
  · rw [houtput]
    decide +kernel

end RecordBean.CheckOrder
