/-
  HistoryAudit.Harness.Run

  A whole run: the scenario is carried out with the shell of the settings, the
  log that the shell wrote is validated, and the log is removed. Once the place
  of the log is known, it is removed however the run ends.
-/
import HistoryAudit.Harness.Artifact
import HistoryAudit.Scenario.Run

namespace HistoryAudit

namespace Harness

open Json (Value)

/-- The end of a run: its result, the device, and what the run leaves to others. -/
structure Ending where
  result : Except Failure Report
  device : Device
  around : Surroundings

/-- For so long the shell may take to end by itself. -/
def shutdownGrace : Nat := 500

def locationFailure : Failure :=
  ⟨.protocol, "cannot determine history data directory",
    some (.object [("hint", .string "set XDG_DATA_HOME or HOME, or pass --data-dir")])⟩

/-- The surroundings after the log was removed, whatever became of that. -/
def withoutLog (path : OsText) (s : Surroundings) : Surroundings :=
  { s with files := (removeLog s.files path).2 }

def validateLog (c : Config) (path : OsText) (s : Surroundings) : Audit.Report × Surroundings :=
  let (_, s) := waitForFlush path c.flush s
  (Audit.validate s.files path c.checks, s)

/-- The part of a run behind the scenario: the shell is ended, the log validated if the scenario
came to its end, and the log is removed. -/
def conclude (c : Config) (runId : String) (path : OsText) (started : Nat) (scenario : ScenarioReport)
    (g : Dialogue) : Ending :=
  let g := (g.close shutdownGrace).2
  let s := g.session.around
  let (validation?, s) :=
    if scenario.completed then
      let (report, s) := validateLog c path s
      (some report, s)
    else (none, s)
  let (cleanup, files) := cleanUp s.files path
  let report : Report :=
    { version := reportVersion
      runId
      logPath := path
      scenario
      validation?
      cleanup
      endedAt := s.clock - started }
  ⟨.ok report, g.session.device, { s with files }⟩

/-- The part of a run from the start of the shell. -/
def runAt (c : Config) (scenario : Scenario) (runId : String) (path : OsText) (parent : Config.Variables)
    (d : Device) (s : Surroundings) : Ending :=
  match Dialogue.start c parent d s with
  -- From here on every way out removes the log.
  | (.error f, d) => ⟨.error f, d, withoutLog path s⟩
  | (.ok g, _) =>
    match g.runScenario scenario with
    | (.error f, g) =>
      let g := g.drop
      ⟨.error f, g.session.device, withoutLog path g.session.around⟩
    | (.ok report, g) => conclude c runId path s.clock report g

/-- Carries out a run. It fails only if it cannot start: what goes wrong in the scenario or with
the log is part of the report. -/
def run (c : Config) (scenario : Scenario) (runId : String) (parent : Config.Variables)
    (d : Device) (s : Surroundings) : Ending :=
  match scenario.check with
  | .error f => ⟨.error f, d, s⟩
  | .ok () =>
    match c.history.logPath? with
    | none => ⟨.error locationFailure, d, s⟩
    | some path => runAt c scenario runId path parent d s

end Harness

end HistoryAudit
