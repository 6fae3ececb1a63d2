/-
  HistoryAudit.Proofs.Harness.Staleness

  Whose log decides a run. A run does not touch the log before it is validated,
  so what is read then was written by others in the course of the run, or it has
  stood there from the beginning (`read_of_not_written`). In the second case the
  old log decides the run (`old_log_decides`): a run without a log at its
  beginning cannot pass unless somebody writes one, but a run can pass on a log
  that is older than the run.
-/
import HistoryAudit.Proofs.Harness.Cleanup

namespace HistoryAudit.Harness

open Device (Cue)
open Files (Tree)

/-! ## Writing the log -/

/-- What can be read at the path was not to be read there before. -/
def Written (path : OsText) (before after : Tree) : Prop :=
  ∃ content, after.read path = .ok content ∧ before.read path ≠ .ok content

/-- Others write at the path, from one moment to another. -/
def WrittenBetween (path : OsText) (a b : List Cue × Surroundings) : Prop :=
  ∃ x y, OthersActed a x ∧ OthersAct x y ∧ OthersActed y b ∧ Written path x.2.files y.2.files

section Writing

variable {path : OsText} {a b x : List Cue × Surroundings}

/-- What is read after a time in which nobody has written it was there before. -/
theorem read_of_not_written {content : List UInt8} (h : OthersActed a b)
    (hnone : ¬WrittenBetween path a b) (hread : b.2.files.read path = .ok content) :
    a.2.files.read path = .ok content := by
  -- From the front: what is read at the end was there at the second moment, so if it was not at the
  -- first, the first thing that others do has written it.
  induction h using Relation.ReflTransGen.head_induction_on with
  | refl => exact hread
  | @head a y hact hrest ih =>
    have hlater : ¬WrittenBetween path y b := fun ⟨x, z, hx, hxz, hz, hwritten⟩ =>
      hnone ⟨x, z, .head hact hx, hxz, hz, hwritten⟩
    by_contra hother
    exact hnone ⟨a, y, .refl, hact, hrest, content, ih hlater, hother⟩

/-- A shell that writes no file and that nobody helps leaves all files as they are. -/
theorem files_of_silent (hcues : ∀ c ∈ a.1, c.file? = none) (hevents : a.2.events = [])
    (h : OthersActed a b) : b.2.files = a.2.files := by
  -- Neither the shell nor time can bring a file, and both leave it so.
  have hkept : (∀ c ∈ b.1, c.file? = none) ∧ b.2.events = [] ∧ b.2.files = a.2.files := by
    induction h with
    | refl => exact ⟨hcues, hevents, rfl⟩
    | tail _ hact ih =>
      obtain ⟨ihcues, ihevents, ihfiles⟩ := ih
      cases hact with
      | shell d c rest s =>
        have hmeet : (d.meet s c).2 = s := by
          simp only [Device.meet, ihcues c List.mem_cons_self]
        rw [hmeet]
        exact ⟨fun c' hc' => ihcues c' (List.mem_cons_of_mem _ hc'), ihevents, ihfiles⟩
      | time cues s duration =>
        have hpause : (s.pause duration).files = s.files ∧ (s.pause duration).events = [] := by
          have hnone : s.events = [] := ihevents
          simp only [Surroundings.pause, hnone]
          exact ⟨rfl, rfl⟩
        exact ⟨ihcues, hpause.2, hpause.1.trans ihfiles⟩
  exact hkept.2.2

/-- So it writes at no path. -/
theorem not_written_of_silent (hcues : ∀ c ∈ a.1, c.file? = none) (hevents : a.2.events = []) :
    ¬WrittenBetween path a b := by
  rintro ⟨x, y, hx, hxy, -, content, hread, hother⟩
  have hbefore := files_of_silent hcues hevents hx
  have hafter := files_of_silent hcues hevents (hx.tail hxy)
  exact hother (by rw [hbefore, ← hafter, hread])

end Writing

/-! ## The verdict of a run -/

section Verdict

variable {c : Config} {scenario : Scenario} {runId : String} {path : OsText} {parent : Config.Variables}
  {d : Device} {s : Surroundings} {report : Report}

/-- The log is validated if the scenario came to its end, and just before the cleanup. -/
theorem runAt_validation (h : (runAt c scenario runId path parent d s).result = .ok report) :
    report.validation? =
      if report.scenario.completed then
        some (Audit.validate (beforeCleanup c scenario path parent d s).files path c.checks)
      else none := by
  rcases hstart : Dialogue.start c parent d s with ⟨f | g, d'⟩
  · simp only [runAt, hstart] at h
    cases h
  · rcases hrun : g.runScenario scenario with ⟨f | scenarioReport, g'⟩
    · simp only [runAt, hstart, hrun] at h
      cases h
    · simp only [runAt, hstart, hrun, conclude] at h
      cases h
      simp only [beforeCleanup, hstart, hrun]
      split <;> rfl

/-- A report names the log of the settings, and the validation in it the same. -/
theorem run_paths (h : (run c scenario runId parent d s).result = .ok report) :
    c.history.logPath? = some report.logPath ∧
      ∀ v, report.validation? = some v → v.path = report.logPath := by
  unfold run at h
  split at h
  · cases h
  · split at h
    · cases h
    · rename_i path hpath
      -- A run with a report has passed all its early returns.
      have hlog : report.logPath = path := by
        unfold runAt at h
        split at h
        · cases h
        · split at h
          · cases h
          · cases h
            rfl
      refine ⟨hpath.trans (congrArg some hlog.symm), fun v hv => ?_⟩
      rw [runAt_validation h] at hv
      split at hv
      · cases hv
        exact hlog.symm
      · cases hv

/-- It can be written as JSON if the path of the log is valid text. -/
theorem printable_of_run (h : (run c scenario runId parent d s).result = .ok report)
    (htext : report.logPath.IsText) : report.printable = true := by
  obtain ⟨-, hvalidated⟩ := run_paths h
  rw [Report.printable, decide_eq_true htext, Bool.true_and]
  cases hv : report.validation? with
  | none => rfl
  | some v => exact decide_eq_true (hvalidated v hv ▸ htext)

theorem runAt_passed_iff (h : (runAt c scenario runId path parent d s).result = .ok report) :
    report.passed = true ↔ report.scenario.completed = true ∧
      (Audit.validate (beforeCleanup c scenario path parent d s).files path c.checks).passed =
        true := by
  rw [Report.passed, runAt_validation h]
  split
  · rename_i hcompleted
    simp [hcompleted]
  · rename_i hcompleted
    simp [hcompleted]

/-- A log that cannot be read does not pass. -/
theorem read_of_validate_passed {files : Tree} {t : Audit.Thresholds}
    (h : (Audit.validate files path t).passed = true) :
    ∃ content, files.read path = .ok content := by
  cases hread : files.read path with
  | ok content => exact ⟨content, rfl⟩
  | error e =>
    rw [Audit.validate, hread] at h
    cases e <;> cases h

/-- The verdict depends on what is read of the log, and on nothing else in the files. -/
theorem validate_congr {files files' : Tree} (t : Audit.Thresholds)
    (h : files.read path = files'.read path) :
    Audit.validate files path t = Audit.validate files' path t := by
  rw [Audit.validate, Audit.validate, h]

/-- If nobody writes the log from the beginning of a run to its validation, the run passes iff the
scenario comes to its end, the log of the beginning is still there, and that log is in order. -/
theorem old_log_decides (hpath : c.history.logPath? = some path)
    (h : (run c scenario runId parent d s).result = .ok report)
    (hnone : ¬WrittenBetween path (d.cues, s) ((run c scenario runId parent d s).device.cues,
      beforeCleanup c scenario path parent d s)) :
    (report.passed = true ↔ report.scenario.completed = true ∧
      (beforeCleanup c scenario path parent d s).files.read path = s.files.read path ∧
        (Audit.validate s.files path c.checks).passed = true) ∧
      ((∀ content, s.files.read path ≠ .ok content) → report.passed = false) := by
  cases hcheck : scenario.check with
  | error f =>
    simp only [run, hcheck] at h
    cases h
  | ok _ =>
    have hrun : run c scenario runId parent d s = runAt c scenario runId path parent d s := by
      simp only [run, hcheck, hpath]
    rw [hrun] at h hnone
    have hothers := runAt_others c scenario runId path parent d s
    -- What is validated has stood there from the beginning.
    have hread : ∀ content,
        (beforeCleanup c scenario path parent d s).files.read path = .ok content →
          s.files.read path = .ok content :=
      fun content => read_of_not_written hothers hnone
    have hiff : report.passed = true ↔ report.scenario.completed = true ∧
        (beforeCleanup c scenario path parent d s).files.read path = s.files.read path ∧
          (Audit.validate s.files path c.checks).passed = true := by
      rw [runAt_passed_iff h]
      refine and_congr_right fun _ => ⟨fun hpassed => ?_, fun hboth => ?_⟩
      · obtain ⟨content, hcontent⟩ := read_of_validate_passed hpassed
        have hsame := hcontent.trans (hread content hcontent).symm
        exact ⟨hsame, validate_congr c.checks hsame ▸ hpassed⟩
      · obtain ⟨hsame, hpassed⟩ := hboth
        rwa [validate_congr c.checks hsame]
    refine ⟨hiff, fun hmissing => Bool.eq_false_iff.mpr fun hpassed => ?_⟩
    obtain ⟨content, hcontent⟩ := read_of_validate_passed (hiff.mp hpassed).2.2
    exact hmissing content hcontent

end Verdict

/-! ## A run on an old log -/

namespace OldLog

/-- A log in which every property holds. -/
def text : String :=
  "\x7b\"cmd\":\"true\",\"exit\":0,\"dur\":1\x7d\n" ++
    "\x7b\"cmd\":\"false\",\"exit\":1,\"dur\":1\x7d\n" ++
    "\x7b\"cmd\":\"begin; end\",\"dur\":1\x7d\n"

/-- It stands where the shell should write its own. -/
def around : Surroundings where
  files := { nodes := [(["d"], .directory), (["d", "fish"], .directory),
    (["d", "fish", "h.jsonl"], .file (Text.Utf8.encode text))] }

def settings : Config where
  history := .inDataDir "h" "d"
  shell := { prompt := "$ " }
  timeout := 40

/-- A shell that prints its prompts and keeps no history at all. -/
def shell : Device := .ofScript
  { cues := [{ output := .data (Text.Utf8.encode "$ ") },
      { output := .data (Text.Utf8.encode "$ "), lines := 1 }, { output := .hungUp }] }

def save : Scenario where
  name := "save"
  steps := [⟨"save-history", "builtin history save", .prompt⟩]

theorem logPath? : settings.history.logPath? = some (.ofString "d/fish/h.jsonl") := by decide

theorem not_written (b : List Cue × Surroundings) :
    ¬WrittenBetween "d/fish/h.jsonl" (shell.cues, around) b :=
  not_written_of_silent (by decide) rfl

theorem passed : (run settings save "" [] shell around).result.toOption.map (·.passed) =
    some true := by decide +kernel

end OldLog

/-- The shell answers every line with a prompt and writes nothing, and the run passes. -/
theorem old_log_decides_unwritten :
    let c := OldLog.settings
    let s := OldLog.around
    let t := beforeCleanup c OldLog.save "d/fish/h.jsonl" [] OldLog.shell s
    ∃ report, (run c OldLog.save "" [] OldLog.shell s).result = .ok report ∧
      report.passed = true ∧ t.files.read "d/fish/h.jsonl" = s.files.read "d/fish/h.jsonl" ∧
        (Audit.validate s.files "d/fish/h.jsonl" c.checks).passed = true := by
  intro c s t
  obtain ⟨report, hreport, hpassed⟩ := Option.map_eq_some_iff.mp OldLog.passed
  have hresult := Dialogue.ok_of_toOption hreport
  have hdecides := (old_log_decides OldLog.logPath? hresult (OldLog.not_written _)).1.mp hpassed
  exact ⟨report, hresult, hpassed, hdecides.2⟩

/-- So it is not true that a run in which nobody writes the log does not pass. -/
theorem passed_on_old_log :
    ¬∀ (c : Config) (scenario : Scenario) (runId : String) (path : OsText)
        (parent : Config.Variables) (d : Device) (s : Surroundings) (report : Report),
        c.history.logPath? = some path →
          (run c scenario runId parent d s).result = .ok report →
            ¬WrittenBetween path (d.cues, s) ((run c scenario runId parent d s).device.cues,
              beforeCleanup c scenario path parent d s) →
              report.passed = false := by
  intro hall
  obtain ⟨report, hreport, hpassed⟩ := Option.map_eq_some_iff.mp OldLog.passed
  have hfailed := hall _ _ _ _ _ _ _ report OldLog.logPath? (Dialogue.ok_of_toOption hreport)
    (OldLog.not_written _)
  rw [hpassed] at hfailed
  cases hfailed

end HistoryAudit.Harness
