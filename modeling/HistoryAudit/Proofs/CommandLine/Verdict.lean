/-
  HistoryAudit.Proofs.CommandLine.Verdict

  A run and a validation tell their verdict three times: by the status, by the
  report, and by the printed lines. The status is the one that the code of a
  failure, the verdict on the log, or both of them ask for (`Audit.StatusTells`,
  `Harness.StatusTells`), and a printed line raises an alarm iff the report did
  not pass (`lines_alarm`), for no message of a property that holds begins like an
  alarm (`Audit.quiet_of_mem_check`). JSON changes what is printed and nothing
  else.
-/
import HistoryAudit.CommandLine.Outcome
import HistoryAudit.Proofs.CommandLine.LogPlace
import HistoryAudit.Proofs.Harness.Refusal

namespace HistoryAudit

/-- A status of failure is neither that of success nor that of a property that does not hold. -/
theorem ErrorCode.one_lt_exitStatus (code : ErrorCode) : 1 < code.exitStatus := by
  cases code <;> decide

/-! ## Lines that raise an alarm -/

/-- The beginnings of lines that raise an alarm. -/
def alarmMarks : List (List Char) := ["ERROR".toList, "FAIL".toList]

/-- The line tells of something that went wrong. -/
def Alarms (line : String) : Prop := ∃ mark ∈ alarmMarks, mark <+: line.toList

/-- However a line goes on, it raises an alarm. -/
theorem alarms_append {first : String} (h : Alarms first) (rest : String) :
    Alarms (first ++ rest) := by
  obtain ⟨mark, hmark, hbegins⟩ := h
  refine ⟨mark, hmark, ?_⟩
  rw [String.toList_append]
  exact hbegins.trans (List.prefix_append _ _)

theorem alarms_error (text : String) : Alarms ("ERROR: " ++ text) :=
  alarms_append ⟨"ERROR".toList, by decide, by decide⟩ text

theorem alarms_fail (text : String) : Alarms ("FAIL " ++ text) :=
  alarms_append ⟨"FAIL".toList, by decide, by decide⟩ text

/-- The line differs from an alarm before its end, so that it raises none however it goes on. -/
def Harmless (first : String) : Prop :=
  ∀ mark ∈ alarmMarks, ¬mark <+: first.toList ∧ ¬first.toList <+: mark

instance (first : String) : Decidable (Harmless first) :=
  inferInstanceAs (Decidable (∀ mark ∈ alarmMarks, _ ∧ _))

theorem Harmless.append {first : String} (h : Harmless first) (rest : String) :
    Harmless (first ++ rest) := by
  intro mark hmark
  obtain ⟨hlonger, hshorter⟩ := h mark hmark
  rw [String.toList_append]
  refine ⟨fun hbegins => ?_, fun hbegins => hshorter ((List.prefix_append _ _).trans hbegins)⟩
  exact (List.prefix_or_prefix_of_prefix hbegins (List.prefix_append _ _)).elim hlonger hshorter

theorem Harmless.not_alarms {line : String} (h : Harmless line) : ¬Alarms line :=
  fun ⟨mark, hmark, hbegins⟩ => (h mark hmark).1 hbegins

namespace Audit

/-! ## Findings -/

/-- A finding raises no alarm if its property holds. -/
def Quiet (f : Finding) : Prop := f.passed = true → Harmless f.message

theorem quiet_fail (property : Property) (message : String) : Quiet (.fail property message) :=
  fun h => by cases h

theorem quiet_pass (property : Property) {first : String} (h : Harmless first) (rest : String) :
    Quiet (.pass property (first ++ rest)) := fun _ => h.append rest

theorem quiet_checkMinEntries (entries : List Log.Entry) (least : Nat) :
    Quiet (checkMinEntries entries least) := by
  unfold checkMinEntries
  split
  · rw [String.append_assoc]
    exact quiet_pass _ (by decide : Harmless "Found at least ") _
  · exact quiet_fail _ _

theorem quiet_checkExitZero (codes : List Int) : Quiet (checkExitZero codes) := by
  unfold checkExitZero
  split
  · exact fun _ => (by decide : Harmless "Found exit code 0")
  · exact quiet_fail _ _

theorem quiet_checkExitFailure (codes : List Int) (failure : Int) :
    Quiet (checkExitFailure codes failure) := by
  unfold checkExitFailure
  split
  · exact quiet_pass _ (by decide : Harmless "Found exit code ") _
  · exact quiet_fail _ _

theorem quiet_checkUniversalDuration (entries : List Log.Entry) :
    Quiet (checkUniversalDuration entries) := by
  unfold checkUniversalDuration
  simp only
  split
  · rw [String.append_assoc]
    exact quiet_pass _ (by decide : Harmless "All ") _
  · exact quiet_fail _ _

/-- A block is told by its label, so this must raise no alarm. -/
theorem quiet_checkBlocks (blocks : List Log.Entry) {label : String} (h : Harmless label) :
    Quiet (checkBlocks blocks label).1 ∧ Quiet (checkBlocks blocks label).2 := by
  unfold checkBlocks
  refine ⟨?_, ?_⟩
  · simp only
    split
    · exact quiet_pass _ h _
    · exact quiet_fail _ _
  · simp only
    split
    · exact quiet_pass _ h _
    · exact quiet_fail _ _

theorem quiet_of_mem_check {entries : List Log.Entry} {t : Thresholds}
    (h : Harmless (t.blockStart ++ ";" ++ t.blockEnd)) :
    ∀ f ∈ check entries t, Quiet f := by
  have hblocks : Quiet (checkBlockEntries entries t.blockStart t.blockEnd).1 ∧
      Quiet (checkBlockEntries entries t.blockStart t.blockEnd).2 := by
    unfold checkBlockEntries
    simp only
    split
    · exact ⟨quiet_fail _ _, quiet_fail _ _⟩
    · exact quiet_checkBlocks _ h
  simp only [check, List.forall_mem_cons]
  exact ⟨quiet_checkMinEntries _ _, quiet_checkExitZero _, quiet_checkExitFailure _ _,
    quiet_checkUniversalDuration _, hblocks.1, hblocks.2, List.forall_mem_nil _⟩

/-- By the thresholds of the commands, a validation finds nothing that holds and raises an alarm. -/
theorem quiet_validate (files : Files.Tree) (path : OsText) :
    ∀ f ∈ (validate files path {}).findings, Quiet f := by
  have hcheck (entries : List Log.Entry) : ∀ f ∈ check entries {}, Quiet f :=
    quiet_of_mem_check (by decide)
  unfold validate Report.findings Outcome.ofRead
  simp only
  split
  · rename_i entries findings malformed houtcome
    -- Only a log that was read as text has findings.
    split at houtcome
    · split at houtcome
      · cases houtcome
        exact hcheck _
      · cases houtcome
    · cases houtcome
    · cases houtcome
  · exact List.forall_mem_nil _

/-! ## Validations -/

namespace Report

/-- The log was checked, and every property holds. -/
def Holds (r : Report) : Prop :=
  ∃ entries findings malformed, r.outcome = .checked entries findings malformed ∧
    ∀ f ∈ findings, f.passed = true

/-- The log was checked, and some property does not hold. -/
def Fails (r : Report) : Prop :=
  ∃ entries findings malformed, r.outcome = .checked entries findings malformed ∧
    ∃ f ∈ findings, f.passed = false

theorem passed_iff (r : Report) : r.passed = true ↔ r.Holds := by
  unfold passed Holds
  cases r.outcome <;> simp

/-- A validation prints an alarm iff it did not pass. -/
theorem lines_alarm {r : Report} (h : ∀ f ∈ r.findings, Quiet f) :
    (∃ line ∈ r.lines, Alarms line) ↔ r.passed = false := by
  unfold findings at h
  unfold lines passed
  cases houtcome : r.outcome with
  | missing =>
    have halarm : Alarms ("ERROR: History file not found: " ++ r.path.shown) :=
      alarms_append ⟨"ERROR".toList, by decide, by decide⟩ _
    exact iff_of_true ⟨_, List.mem_singleton.mpr rfl, halarm⟩ rfl
  | unreadable message => exact iff_of_true ⟨_, List.mem_singleton.mpr rfl, alarms_error _⟩ rfl
  | checked entries findings malformed =>
    rw [houtcome] at h
    simp only [List.mem_append, List.mem_map]
    rw [List.all_eq_false]
    constructor
    · rintro ⟨line, ⟨m, -, rfl⟩ | ⟨f, hf, rfl⟩, halarm⟩
      · -- A warning is no alarm.
        have hwarning : Harmless "WARN line " := by decide
        rw [String.append_assoc, String.append_assoc] at halarm
        exact absurd halarm (hwarning.append _).not_alarms
      · -- A finding that raises an alarm did not pass.
        refine ⟨f, hf, fun hpassed => ?_⟩
        rw [if_pos hpassed] at halarm
        exact (h f hf hpassed).not_alarms halarm
    · rintro ⟨f, hf, hfailed⟩
      refine ⟨_, .inr ⟨f, hf, rfl⟩, ?_⟩
      rw [if_neg hfailed, String.append_assoc, String.append_assoc]
      exact alarms_fail _

end Report

/-- The status tells what a validation came to. -/
structure StatusTells (r : Report) (status : Nat) : Prop where
  holds : status = 0 ↔ r.Holds
  fails : status = 1 ↔ r.Fails
  missing : status = 3 ↔ r.outcome = .missing
  unreadable : status = 8 ↔ ∃ message, r.outcome = .unreadable message

open CommandLine.Outcome (statusOf)

theorem statusOf_tells (r : Report) : StatusTells r (statusOf r.passed r.errorCode?) := by
  unfold Report.passed Report.errorCode?
  cases houtcome : r.outcome with
  | missing =>
    constructor <;> simp [Report.Holds, Report.Fails, houtcome, statusOf, ErrorCode.exitStatus]
  | unreadable message =>
    constructor <;> simp [Report.Holds, Report.Fails, houtcome, statusOf, ErrorCode.exitStatus]
  | checked entries findings malformed =>
    have hholds : findings.all (·.passed) = true ↔ r.Holds := by simp [Report.Holds, houtcome]
    have hfails : findings.all (·.passed) = false ↔ r.Fails := by simp [Report.Fails, houtcome]
    change StatusTells r (statusOf (findings.all (·.passed)) none)
    -- The status sees the findings only through their conjunction.
    generalize findings.all (·.passed) = passed at hholds hfails ⊢
    cases passed with
    | true =>
      exact ⟨iff_of_true rfl (hholds.mp rfl), iff_of_false (by decide) (mt hfails.mpr (by decide)),
        iff_of_false (by decide) (by simp [houtcome]), iff_of_false (by decide) (by simp [houtcome])⟩
    | false =>
      exact ⟨iff_of_false (by decide) (mt hholds.mpr (by decide)), iff_of_true rfl (hfails.mp rfl),
        iff_of_false (by decide) (by simp [houtcome]), iff_of_false (by decide) (by simp [houtcome])⟩

end Audit

/-! ## Runs -/

/-- The steps of a scenario that came to its end have all passed. -/
theorem Dialogue.passed_of_completed {g g' : Dialogue} {s : Scenario} {r : ScenarioReport}
    (h : g.runScenario s = (.ok r, g')) (hcompleted : r.completed = true) :
    ∀ x ∈ r.steps, x.Passed := by
  rw [ScenarioReport.completed, Option.isNone_iff_eq_none] at hcompleted
  rw [runScenario_eq] at h
  split at h
  · cases h
  · rename_i steps hsteps
    split at h
    · cases h
      cases hcompleted
    · rename_i m g₁ hprompt
      have hcourse := (runSteps_course steps g₁).1
      cases h
      -- No failure was reported, so the course of the steps is one without.
      rw [show (runSteps steps g₁).1.2 = none from hcompleted] at hcourse
      exact hcourse.all_passed

namespace Harness

/-- The printed lines, less that about the cleanup. -/
def Report.verdictLines (r : Report) : List String :=
  Report.scenarioLines r.scenario ++ r.validation?.elim [] Audit.Report.lines

/-- A scenario that a failure has ended prints an alarm, whether a step has failed or none was
begun. -/
theorem scenarioLines_alarm {r : ScenarioReport} {f : Failure} (h : r.failure? = some f) :
    ∃ line ∈ Report.scenarioLines r, Alarms line := by
  unfold Report.scenarioLines
  rw [h]
  simp only
  split
  · -- A step has failed: its own line is the alarm.
    rename_i hfailed
    obtain ⟨x, hx, hstatus⟩ := List.any_eq_true.mp hfailed
    have hline : Report.stepLine? x =
        some ("ERROR: step " ++ x.name ++ " failed: " ++ x.failure?.elim "" Failure.line) := by
      rw [Report.stepLine?, beq_iff_eq.mp hstatus]
    refine ⟨_, List.mem_append_left _ (List.mem_filterMap.mpr ⟨x, hx, hline⟩), ?_⟩
    rw [String.append_assoc, String.append_assoc]
    exact alarms_append ⟨"ERROR".toList, by decide, by decide⟩ _
  · -- No step was begun: the failure has a line of its own.
    exact ⟨_, List.mem_append_right _ (List.mem_singleton.mpr rfl), alarms_error _⟩

theorem scenarioLines_eq_nil {r : ScenarioReport} (h : r.completed = true)
    (hpassed : ∀ x ∈ r.steps, x.Passed) : Report.scenarioLines r = [] := by
  rw [ScenarioReport.completed, Option.isNone_iff_eq_none] at h
  unfold Report.scenarioLines
  rw [h, List.append_nil, List.filterMap_eq_nil_iff]
  intro x hx
  rw [Report.stepLine?, (hpassed x hx).status]

/-- The status tells what a run with a report came to. -/
structure StatusTells (r : Report) (status : Nat) : Prop where
  holds : status = 0 ↔ r.scenario.completed = true ∧ ∃ v, r.validation? = some v ∧ v.Holds
  fails : status = 1 ↔ r.scenario.completed = true ∧ ∃ v, r.validation? = some v ∧ v.Fails
  aborted : ∀ f, r.scenario.failure? = some f → status = f.code.exitStatus
  /-- If the scenario came to its end, then it is as for the validation of the log. -/
  validated : r.scenario.completed = true →
    ∃ v, r.validation? = some v ∧ Audit.StatusTells v status

theorem Report.passed_eq (r : Report) (h : r.validation?.isSome = r.scenario.completed) :
    r.passed = r.validation?.any (·.passed) := by
  rw [Report.passed, ← h]
  cases r.validation? <;> rfl

theorem Report.passed_iff (r : Report) : r.passed = true ↔
    r.scenario.completed = true ∧ ∃ v, r.validation? = some v ∧ v.Holds := by
  rw [Report.passed, Bool.and_eq_true, Option.any_eq_true]
  simp only [Audit.Report.passed_iff]

open CommandLine.Outcome (statusOf)

/-- The status of a report tells what the run came to, if the log was validated iff the scenario came
to its end. -/
theorem statusOf_tells {r : Report} (h : r.validation?.isSome = r.scenario.completed) :
    StatusTells r (statusOf r.passed r.errorCode?) := by
  cases hfailure : r.scenario.failure? with
  | some f =>
    have hended : r.scenario.completed = false := by rw [ScenarioReport.completed, hfailure]; rfl
    have hstatus : statusOf r.passed r.errorCode? = f.code.exitStatus := by
      rw [Report.errorCode?, hfailure]
      rfl
    -- The scenario has failed: the status is above those of a verdict.
    have hcode := f.code.one_lt_exitStatus
    rw [hstatus]
    refine ⟨iff_of_false (by omega) ?_, iff_of_false (by omega) ?_, fun f' hf' => ?_, ?_⟩
    · exact fun hholds => absurd hholds.1 (by rw [hended]; decide)
    · exact fun hfails => absurd hfails.1 (by rw [hended]; decide)
    · cases hfailure.symm.trans hf'
      rfl
    · exact fun hcompleted => absurd hcompleted (by rw [hended]; decide)
  | none =>
    have hcompleted : r.scenario.completed = true := by
      rw [ScenarioReport.completed, hfailure]
      rfl
    -- It came to its end: the status is that of the validation.
    obtain ⟨v, hv⟩ := Option.isSome_iff_exists.mp (h.trans hcompleted)
    have hstatus : statusOf r.passed r.errorCode? = statusOf v.passed v.errorCode? := by
      rw [r.passed_eq h, Report.errorCode?, hfailure, hv]
      rfl
    have htells := Audit.statusOf_tells v
    rw [hstatus]
    refine ⟨htells.holds.trans ?_, htells.fails.trans ?_, fun f hf => ?_, fun _ => ⟨v, hv, htells⟩⟩
    · simp [hcompleted, hv]
    · simp [hcompleted, hv]
    · cases hfailure.symm.trans hf

section Runs

variable {c : Config} {scenario : Scenario} {runId : String} {parent : Config.Variables}
  {d : Device} {s : Surroundings} {r : Report}

theorem passed_of_run_completed (h : (run c scenario runId parent d s).result = .ok r)
    (hcompleted : r.scenario.completed = true) : ∀ x ∈ r.scenario.steps, x.Passed := by
  obtain ⟨f, hrefused⟩ | ⟨path, g, hbegins⟩ := refused_or_begins c scenario parent d s
  · rw [(run_of_refused hrefused).1] at h
    cases h
  · obtain ⟨report, g', hreport, hrun⟩ := run_of_begins runId hbegins
    cases h.symm.trans hreport
    exact Dialogue.passed_of_completed hrun hcompleted

/-- With the thresholds of the commands, no finding of a run that holds raises an alarm. -/
theorem quiet_run_validation (hchecks : c.checks = {})
    (h : (run c scenario runId parent d s).result = .ok r) :
    ∀ v, r.validation? = some v → ∀ f ∈ v.findings, Audit.Quiet f := by
  intro v hv
  unfold run at h
  split at h
  · cases h
  · split at h
    · cases h
    · rw [runAt_validation h, hchecks] at hv
      split at hv
      · cases hv
        exact Audit.quiet_validate _ _
      · cases hv

/-- A run prints an alarm, apart from one about the cleanup, iff it did not pass. -/
theorem verdictLines_alarm (hchecks : c.checks = {})
    (h : (run c scenario runId parent d s).result = .ok r) :
    (∃ line ∈ r.verdictLines, Alarms line) ↔ r.passed = false := by
  have hvalidated := run_validation h
  unfold Report.verdictLines
  cases hfailure : r.scenario.failure? with
  | some f =>
    -- The scenario has failed and says so.
    obtain ⟨line, hline, halarm⟩ := scenarioLines_alarm hfailure
    refine iff_of_true ⟨line, List.mem_append_left _ hline, halarm⟩ ?_
    rw [Report.passed, ScenarioReport.completed, hfailure]
    rfl
  | none =>
    have hcompleted : r.scenario.completed = true := by
      rw [ScenarioReport.completed, hfailure]
      rfl
    -- Steps that passed print nothing, so only the validation can raise an alarm.
    obtain ⟨v, hv⟩ := Option.isSome_iff_exists.mp (hvalidated.trans hcompleted)
    rw [scenarioLines_eq_nil hcompleted (passed_of_run_completed h hcompleted), hv,
      r.passed_eq hvalidated, hv]
    exact Audit.Report.lines_alarm (quiet_run_validation hchecks h v hv)

end Runs

end Harness

namespace CommandLine

/-- The thresholds of a run are the standard ones, whatever it is asked. -/
theorem planOf_checks {o : RunOptions} {env : Config.Variables}
    {read : OsText → Except Files.FileError (List UInt8)} {c : Config} {scenario : Scenario}
    (h : planOf o env read = .ok (c, scenario)) : c.checks = {} := by
  unfold planOf RunOptions.apply at h
  split at h
  · cases hs : scenarioOf o read <;> rw [hs] at h <;> cases h
    rfl
  · split at h
    · cases hs : scenarioOf o read <;> rw [hs] at h <;> cases h
      rfl
    · cases h

/-- What a run that is asked for comes to: a failure that leaves it without a report, or the
report. -/
def RunOptions.result (o : RunOptions) (runId : String) (env : Config.Variables) (d : Device)
    (s : Surroundings) : Except Failure Harness.Report :=
  (planOf o env s.files.read).bind fun plan => (Harness.run plan.1 plan.2 runId env d s).result

/-- The paths that a command names, and that its report will name, are valid text. -/
def Command.InText : Command → Prop
  | .run o => ∀ dir, o.dataDir? = some dir → dir.IsText
  | .validate log _ => log.IsText

/-- The same command with its result printed as JSON, or as lines. -/
def Command.withJson (json : Bool) : Command → Command
  | .run o => .run { o with json }
  | .validate log _ => .validate log json

section Commands

variable {runId : String} {env : Config.Variables} {d : Device} {s : Surroundings}

theorem carryOut_run (o : RunOptions) :
    ((Command.run o).carryOut runId env d s).outcome = .ofRun o.json (o.result runId env d s) := by
  unfold Command.carryOut RunOptions.result
  simp only
  cases planOf o env s.files.read <;> rfl

/-- A report that can be printed either way has the same status both ways. -/
theorem ofReport_of_printable (json : Bool) (value : Json.Value) (lines : List String)
    (status : Nat) :
    Outcome.ofReport json true value lines status =
      { output := if json then [value.text] else lines, status } := by
  cases json <;> rfl

/-- A plan comes from the settings that the options make of those of the environment. -/
theorem apply_of_planOf {o : RunOptions} {read : OsText → Except Files.FileError (List UInt8)}
    {plan : Config × Scenario} (h : planOf o env read = .ok plan) :
    o.apply (.ofEnvironment env) = .ok plan.1 := by
  unfold planOf at h
  cases happly : o.apply (.ofEnvironment env) with
  | error f =>
    rw [happly] at h
    cases h
  | ok c =>
    rw [happly] at h
    cases hscenario : scenarioOf o read with
    | error f =>
      rw [Except.bind, hscenario] at h
      cases h
    | ok scenario =>
      rw [Except.bind, hscenario] at h
      cases h
      rfl

theorem plan_of_result {o : RunOptions} {r : Harness.Report} (h : o.result runId env d s = .ok r) :
    ∃ plan, planOf o env s.files.read = .ok plan ∧
      (Harness.run plan.1 plan.2 runId env d s).result = .ok r := by
  unfold RunOptions.result at h
  cases hplan : planOf o env s.files.read with
  | error f =>
    rw [hplan] at h
    cases h
  | ok plan =>
    rw [hplan] at h
    exact ⟨plan, rfl, h⟩

/-- What is printed of a run that has a report, if the directory that is asked for is valid text. -/
theorem ofRun_of_inText {o : RunOptions} {r : Harness.Report} (h : o.result runId env d s = .ok r)
    (htext : (Command.run o).InText) (json : Bool) :
    Outcome.ofRun json (.ok r) =
      { output := if json then [(Harness.Report.codec.toValue r).text] else r.lines
        status := Outcome.statusOf r.passed r.errorCode? } := by
  obtain ⟨plan, hplan, hrun⟩ := plan_of_result h
  obtain ⟨hpath, -⟩ := Harness.run_paths hrun
  have hlog := RunOptions.isText_logPath (apply_of_planOf hplan) htext hpath
  rw [Outcome.ofRun, Harness.printable_of_run hrun hlog, ofReport_of_printable]

theorem ofValidation_of_text {r : Audit.Report} (htext : r.path.IsText) (json : Bool) :
    Outcome.ofValidation json r =
      { output := if json then [(Audit.Report.codec.toValue r).text] else r.lines
        status := Outcome.statusOf r.passed r.errorCode? } := by
  have hprintable : r.printable = true := decide_eq_true htext
  rw [Outcome.ofValidation, hprintable, ofReport_of_printable]

theorem carryOut_withJson (command : Command) (htext : command.InText) (json : Bool) :
    let ending := command.carryOut runId env d s
    let ending' := (command.withJson json).carryOut runId env d s
    ending'.outcome.status = ending.outcome.status ∧ ending'.device = ending.device ∧
      ending'.around = ending.around := by
  cases command with
  | validate log before =>
    have hlog : (Audit.validate s.files log {}).path.IsText := htext
    refine ⟨?_, rfl, rfl⟩
    simp only [Command.withJson, Command.carryOut, ofValidation_of_text hlog]
  | run o =>
    -- The run itself never asks for the form of the report.
    have hsame : { o with json }.result runId env d s = o.result runId env d s := rfl
    have hstatus : (Outcome.ofRun json (o.result runId env d s)).status =
        (Outcome.ofRun o.json (o.result runId env d s)).status := by
      cases hresult : o.result runId env d s with
      | error f => rfl
      | ok r => rw [ofRun_of_inText hresult htext, ofRun_of_inText hresult htext]
    refine ⟨?_, ?_⟩
    · simp only [Command.withJson, carryOut_run, hsame, hstatus]
    · have hplan : planOf { o with json } env s.files.read = planOf o env s.files.read := rfl
      simp only [Command.withJson, Command.carryOut, hplan]
      cases planOf o env s.files.read <;> exact ⟨rfl, rfl⟩

end Commands

/-- Status, report and printed lines agree, where the paths that a command names are valid text. A
run that has no report ends with the status of its failure, and that is neither 0 nor 1. The status
of any other run tells what its report says, and an alarm is printed iff that did not pass, apart
from one about the cleanup. The same holds of a validation. Whether the result is printed as JSON
changes neither the status nor the device nor anything around. -/
theorem status_report_and_lines_agree (runId : String) (env : Config.Variables) (d : Device)
    (s : Surroundings) :
    (∀ o : RunOptions, (Command.run o).InText →
      let outcome := ((Command.run o).carryOut runId env d s).outcome
      (∀ f, o.result runId env d s = .error f →
        outcome.status = f.code.exitStatus ∧ outcome.status ≠ 0 ∧ outcome.status ≠ 1) ∧
      ∀ r, o.result runId env d s = .ok r →
        Harness.StatusTells r outcome.status ∧ (outcome.status = 0 ↔ r.passed = true) ∧
          outcome.output = (if o.json then [(Harness.Report.codec.toValue r).text] else r.lines) ∧
          r.lines = r.verdictLines ++ Harness.Report.cleanupLines r.cleanup ∧
          ((∃ line ∈ r.verdictLines, Alarms line) ↔ r.passed = false)) ∧
    (∀ log json, (Command.validate log json).InText →
      let r := Audit.validate s.files log {}
      let outcome := ((Command.validate log json).carryOut runId env d s).outcome
      Audit.StatusTells r outcome.status ∧ (outcome.status = 0 ↔ r.passed = true) ∧
        outcome.output = (if json then [(Audit.Report.codec.toValue r).text] else r.lines) ∧
        ((∃ line ∈ r.lines, Alarms line) ↔ r.passed = false)) ∧
    ∀ (command : Command) (json : Bool), command.InText →
      let ending := command.carryOut runId env d s
      let ending' := (command.withJson json).carryOut runId env d s
      ending'.outcome.status = ending.outcome.status ∧ ending'.device = ending.device ∧
        ending'.around = ending.around := by
  refine ⟨fun o htext => ?_, fun log json htext => ?_,
    fun command json htext => carryOut_withJson command htext json⟩
  · simp only [carryOut_run]
    refine ⟨fun f hf => ?_, fun r hr => ?_⟩
    · have hcode := f.code.one_lt_exitStatus
      rw [hf]
      simp only [Outcome.ofRun, Outcome.ofFailure]
      exact ⟨trivial, by omega, by omega⟩
    · obtain ⟨plan, hplan, hrun⟩ := plan_of_result hr
      have htells := Harness.statusOf_tells (Harness.run_validation hrun)
      rw [hr, ofRun_of_inText hr htext]
      exact ⟨htells, htells.holds.trans r.passed_iff.symm, rfl, rfl,
        Harness.verdictLines_alarm (planOf_checks hplan) hrun⟩
  · have htells := Audit.statusOf_tells (Audit.validate s.files log {})
    have hlog : (Audit.validate s.files log {}).path.IsText := htext
    simp only [Command.carryOut, ofValidation_of_text hlog]
    exact ⟨htells, htells.holds.trans (Audit.Report.passed_iff _).symm, trivial,
      Audit.Report.lines_alarm (Audit.quiet_validate s.files log)⟩

/-- The shell answers every line with a prompt, and the log is in order: the run passes. On a device
that cannot be opened it does not begin. In an empty directory there is no log to validate. -/
theorem status_report_and_lines_agree_thrice :
    let o : RunOptions := { dataDir? := some "d", historyName? := some "h", prompt? := some "$ " }
    let answering : Device := .ofScript
      { cues := [0, 1, 2, 3, 4, 5].map fun lines =>
          { output := .data (Text.Utf8.encode "$ "), lines } }
    let closed : Device := .ofScript { breakdown? := some ⟨.openDevice, "no terminal"⟩ }
    let s := Harness.OldLog.around
    (∃ r, o.result "" [] answering s = .ok r ∧
      ((Command.run o).carryOut "" [] answering s).outcome.status = 0 ∧
        ¬∃ line ∈ r.verdictLines, Alarms line) ∧
    (∃ f, o.result "" [] closed s = .error f ∧ f.code.exitStatus = 6 ∧
      ((Command.run o).carryOut "" [] closed s).outcome.status = f.code.exitStatus) ∧
    ((Command.validate "h.jsonl" true).carryOut "" [] closed s).outcome.status = 3 ∧
      ∃ line ∈ (Audit.validate s.files "h.jsonl" {}).lines, Alarms line := by
  intro o answering closed s
  have hpassed : (o.result "" [] answering s).toOption.map (·.passed) = some true := by
    decide +kernel
  obtain ⟨r, hr, hpassed⟩ := Option.map_eq_some_iff.mp hpassed
  have hresult := Dialogue.ok_of_toOption hr
  have hrefused : o.result "" [] closed s =
      .error (.ofSource "failed to open pty" "no terminal") := rfl
  have htext : (Command.run o).InText := by
    intro dir hdir
    cases hdir
    exact OsText.isText_ofString "d"
  obtain ⟨-, hstatus, -, -, halarm⟩ :=
    ((status_report_and_lines_agree "" [] answering s).1 o htext).2 r hresult
  obtain ⟨hfails, hvalidates, -⟩ := status_report_and_lines_agree "" [] closed s
  obtain ⟨htells, -, -, hlines⟩ := hvalidates "h.jsonl" true (OsText.isText_ofString _)
  refine ⟨⟨r, hresult, hstatus.mpr hpassed, ?_⟩,
    ⟨_, hrefused, rfl, ((hfails o htext).1 _ hrefused).1⟩,
    htells.missing.mpr rfl, hlines.mpr rfl⟩
  rw [halarm, hpassed]
  decide

end CommandLine

end HistoryAudit
