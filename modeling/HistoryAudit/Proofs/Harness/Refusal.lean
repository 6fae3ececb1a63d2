/-
  HistoryAudit.Proofs.Harness.Refusal

  What keeps a run from a report: a scenario that is not in order, a log without
  a place, or a shell that does not start. Nothing was sent to the shell by then.
  A scenario that was checked always comes to a report (`runScenario_of_check`),
  so whatever goes wrong behind the start is told in the report of the run
  (`run_reports_iff`).
-/
import HistoryAudit.Proofs.Harness.Staleness
import HistoryAudit.Proofs.Scenario.InFlight

namespace HistoryAudit

/-! ## The start -/

/-- A start sends nothing to the shell, however it ends. -/
theorem Session.start_input (setup : Session.Setup) (parent : Config.Variables) (d : Device)
    (s : Surroundings) : (Session.start setup parent d s).2.input = d.input := by
  unfold Session.start
  simp only
  split
  · rfl
  split
  · rfl
  · rfl
  split <;> rfl

/-- The same of the shell of the settings. -/
theorem Dialogue.start_input (c : Config) (parent : Config.Variables) (d : Device)
    (s : Surroundings) : (Dialogue.start c parent d s).2.input = d.input := by
  unfold Dialogue.start
  simp only
  have hinput := Session.start_input
    { command := c.shell.command, args := c.shell.args, cwd? := c.shell.cwd?, size := c.size
      env := c.shellEnv } parent d s
  split
  · rename_i session d' heq
    rwa [heq] at hinput
  · rename_i f d' heq
    rwa [heq] at hinput

/-! ## The scenario -/

/-- What the steps of a checked scenario wait for was made into patterns once, and it can be made
again; everything else that goes wrong is part of the report. -/
theorem Dialogue.runScenario_of_check {scenario : Scenario} (h : scenario.check = .ok ())
    (g : Dialogue) : ∃ report g', g.runScenario scenario = (.ok report, g') := by
  obtain ⟨-, entries, hentries⟩ := Scenario.of_check h g.prompt
  rw [Dialogue.runScenario_eq, hentries]
  rcases g.expectPrompt with ⟨f | m, g'⟩
  · exact ⟨_, _, rfl⟩
  · exact ⟨_, _, rfl⟩

namespace Harness

/-! ## Whole runs -/

/-- The failure of the first thing that keeps a run from its scenario. -/
inductive Refused (c : Config) (scenario : Scenario) (parent : Config.Variables) (d : Device)
    (s : Surroundings) : Failure → Prop
  /-- The scenario is not in order. -/
  | scenario {f : Failure} (check : scenario.check = .error f) : Refused c scenario parent d s f
  /-- The log has no place. -/
  | location (check : scenario.check = .ok ()) (nowhere : c.history.logPath? = none) :
      Refused c scenario parent d s locationFailure
  /-- The shell does not start. -/
  | start {f : Failure} {path : OsText} (check : scenario.check = .ok ())
      (place : c.history.logPath? = some path)
      (failed : (Dialogue.start c parent d s).1 = .error f) : Refused c scenario parent d s f

/-- The run comes to its scenario: this is in order, the log has a place, and the shell starts. -/
structure Begins (c : Config) (scenario : Scenario) (parent : Config.Variables) (d : Device)
    (s : Surroundings) (path : OsText) (g : Dialogue) : Prop where
  check : scenario.check = .ok ()
  place : c.history.logPath? = some path
  started : (Dialogue.start c parent d s).1 = .ok g

variable {c : Config} {scenario : Scenario} {runId : String} {parent : Config.Variables}
  {d : Device} {s : Surroundings}

/-- A run comes to its scenario, or something keeps it from that, and then only one thing. -/
theorem refused_or_begins (c : Config) (scenario : Scenario) (parent : Config.Variables)
    (d : Device) (s : Surroundings) :
    (∃ f, Refused c scenario parent d s f) ∨ ∃ path g, Begins c scenario parent d s path g := by
  cases hcheck : scenario.check with
  | error f => exact .inl ⟨f, .scenario hcheck⟩
  | ok _ =>
    cases hplace : c.history.logPath? with
    | none => exact .inl ⟨_, .location hcheck hplace⟩
    | some path =>
      cases hstart : (Dialogue.start c parent d s).1 with
      | error f => exact .inl ⟨f, .start hcheck hplace hstart⟩
      | ok g => exact .inr ⟨path, g, hcheck, hplace, hstart⟩

/-- What keeps a run from its scenario is its result, and nothing was sent to the shell. -/
theorem run_of_refused {f : Failure} (h : Refused c scenario parent d s f) :
    (run c scenario runId parent d s).result = .error f ∧
      (run c scenario runId parent d s).device.input = d.input := by
  cases h with
  | scenario hcheck =>
    simp only [run, hcheck]
    exact ⟨trivial, trivial⟩
  | location hcheck hplace =>
    simp only [run, hcheck, hplace]
    exact ⟨trivial, trivial⟩
  | start hcheck hplace hstart =>
    have hinput := Dialogue.start_input c parent d s
    rcases heq : Dialogue.start c parent d s with ⟨r, d'⟩
    rw [heq] at hstart hinput
    cases hstart
    simp only [run, runAt, hcheck, hplace, heq]
    exact ⟨trivial, hinput⟩

variable (runId) in
/-- A run that comes to its scenario ends with a report of it. -/
theorem run_of_begins {path : OsText} {g : Dialogue} (h : Begins c scenario parent d s path g) :
    ∃ report g', (run c scenario runId parent d s).result = .ok report ∧
      g.runScenario scenario = (.ok report.scenario, g') := by
  obtain ⟨hcheck, hplace, hstart⟩ := h
  obtain ⟨told, g', hrun⟩ := Dialogue.runScenario_of_check hcheck g
  rcases heq : Dialogue.start c parent d s with ⟨r, d'⟩
  rw [heq] at hstart
  cases hstart
  simp only [run, runAt, hcheck, hplace, heq, hrun, conclude]
  exact ⟨_, g', rfl, rfl⟩

/-- The log is validated iff the scenario came to its end. -/
theorem run_validation {report : Report}
    (h : (run c scenario runId parent d s).result = .ok report) :
    report.validation?.isSome = report.scenario.completed := by
  unfold run at h
  split at h
  · cases h
  · split at h
    · cases h
    · rw [runAt_validation h]
      split
      · rename_i hcompleted
        exact hcompleted.symm
      · rename_i hended
        exact (Bool.eq_false_iff.mpr hended).symm

/-- A run ends with a report iff its scenario is in order, its log has a place and its shell starts;
otherwise it ends with the failure of the first of these that fails, and nothing was sent to the
shell. So no failure behind the start ends a run without a report: the report is that of the
scenario, and it has the verdict on the log iff the scenario came to its end. -/
theorem run_reports_iff (c : Config) (scenario : Scenario) (runId : String)
    (parent : Config.Variables) (d : Device) (s : Surroundings) :
    ((∃ report, (run c scenario runId parent d s).result = .ok report) ↔
        scenario.check = .ok () ∧ (∃ path, c.history.logPath? = some path) ∧
          ∃ g, (Dialogue.start c parent d s).1 = .ok g) ∧
      (∀ f, (run c scenario runId parent d s).result = .error f ↔ Refused c scenario parent d s f) ∧
      (∀ f, Refused c scenario parent d s f →
        (run c scenario runId parent d s).device.input = d.input) ∧
      ∀ report, (run c scenario runId parent d s).result = .ok report →
        (∃ path g g', Begins c scenario parent d s path g ∧
          g.runScenario scenario = (.ok report.scenario, g')) ∧
        report.validation?.isSome = report.scenario.completed := by
  have hrefused : ∀ f, Refused c scenario parent d s f →
      (run c scenario runId parent d s).result = .error f := fun f h => (run_of_refused h).1
  refine ⟨⟨?_, ?_⟩, fun f => ⟨?_, hrefused f⟩, fun f h => (run_of_refused h).2, ?_⟩
  · -- A run is refused or begins, and a refused one has no report.
    rintro ⟨report, hreport⟩
    obtain ⟨f, h⟩ | ⟨path, g, h⟩ := refused_or_begins c scenario parent d s
    · rw [hrefused f h] at hreport
      cases hreport
    · exact ⟨h.check, ⟨path, h.place⟩, g, h.started⟩
  · -- What lets a run begin gives it a report.
    rintro ⟨hcheck, ⟨path, hplace⟩, g, hstart⟩
    obtain ⟨report, -, hreport, -⟩ := run_of_begins runId ⟨hcheck, hplace, hstart⟩
    exact ⟨report, hreport⟩
  · intro herror
    obtain ⟨f', h⟩ | ⟨path, g, h⟩ := refused_or_begins c scenario parent d s
    · rw [hrefused f' h] at herror
      cases herror
      exact h
    · obtain ⟨report, -, hreport, -⟩ := run_of_begins runId h
      rw [hreport] at herror
      cases herror
  · intro report hreport
    refine ⟨?_, run_validation hreport⟩
    obtain ⟨f, h⟩ | ⟨path, g, h⟩ := refused_or_begins c scenario parent d s
    · rw [hrefused f h] at hreport
      cases hreport
    · obtain ⟨report', g', hreport', hrun⟩ := run_of_begins runId h
      rw [hreport] at hreport'
      cases hreport'
      exact ⟨path, g, g', h, hrun⟩

/-- Nothing can be written to the shell and nobody can wait for its end, and yet there is a report.
With a device that cannot be opened there is none. -/
theorem run_reports_failed_write :
    let c : Config := { history := .inDataDir "h" "d", shell := { prompt := "$ " } }
    let d : Device := .ofScript
      { cues := [{ output := .data (Text.Utf8.encode "$ ") }]
        writeFails? := some 0
        waitFails := true }
    let closed : Device := .ofScript { breakdown? := some ⟨.openDevice, "no terminal"⟩ }
    (∃ report, (run c .standard "" [] d {}).result = .ok report ∧
        report.scenario.failure?.map (·.message) = some "failed to write to pty" ∧
          report.validation? = none) ∧
      ∃ f, (run c .standard "" [] closed {}).result = .error f ∧
        (run c .standard "" [] closed {}).device.input = [] := by
  intro c d closed
  have hcheck : Scenario.standard.check = .ok () := rfl
  have hplace : c.history.logPath? = some (.ofString "d/fish/h.jsonl") := by decide
  constructor
  · have hmessage : (run c .standard "" [] d {}).result.toOption.map
        (·.scenario.failure?.map (·.message)) = some (some "failed to write to pty") := by
      decide +kernel
    obtain ⟨report, hreport, hfailure⟩ := Option.map_eq_some_iff.mp hmessage
    have hresult := Dialogue.ok_of_toOption hreport
    have hvalidated := ((run_reports_iff c .standard "" [] d {}).2.2.2 report hresult).2
    have hended : report.scenario.completed = false := by
      rw [ScenarioReport.completed]
      cases hf : report.scenario.failure? with
      | none =>
        rw [hf] at hfailure
        cases hfailure
      | some f => rfl
    rw [hended, Option.isSome_eq_false_iff, Option.isNone_iff_eq_none] at hvalidated
    exact ⟨report, hresult, hfailure, hvalidated⟩
  · have hrefused : Refused c .standard [] closed {} (.ofSource "failed to open pty" "no terminal") :=
      .start hcheck hplace rfl
    have hreports := run_reports_iff c .standard "" [] closed {}
    exact ⟨_, (hreports.2.1 _).mpr hrefused, hreports.2.2.1 _ hrefused⟩

end Harness

end HistoryAudit
