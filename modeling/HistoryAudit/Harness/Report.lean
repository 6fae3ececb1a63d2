/-
  HistoryAudit.Harness.Report

  The result of a whole run: the scenario, the validation of the log and its
  removal; the verdict and the printed lines.
-/
import HistoryAudit.Audit.Report
import HistoryAudit.Json.Uuid
import HistoryAudit.Scenario.Basic

namespace HistoryAudit.Harness

open Json

/-- What became of the log when it was removed. -/
inductive Cleanup where
  | removed
  | absent
  | failed (message : String)
  deriving DecidableEq

namespace Cleanup

def variants : Variants Cleanup :=
  (Variants.bare "removed" <|
    Variants.bare "already_absent" <|
    Variants.fields "failed" "CleanupStatus" "Failed"
      (Fields.cons (.required "message" Codec.text) Fields.done) <|
    Variants.none).map
    (fun
      | .inl () => .removed
      | .inr (.inl ()) => .absent
      | .inr (.inr (.inl (message, ()))) => .failed message)
    (fun
      | .removed => .inl ()
      | .absent => .inr (.inl ())
      | .failed message => .inr (.inr (.inl (message, ()))))

def codec : Codec Cleanup := Codec.tagged "CleanupStatus" "status" variants

end Cleanup

def reportVersion : Nat := 1

structure Report where
  version : Nat
  runId : String
  logPath : OsText
  scenario : ScenarioReport
  /-- Absent if the scenario did not come to its end. -/
  validation? : Option Audit.Report
  cleanup : Cleanup
  /-- How long the run took, in milliseconds. -/
  endedAt : Nat

namespace Report

def codec : Codec Report :=
  Codec.record "HarnessReport" <|
    (Fields.cons (.required "report_version" (Codec.natural "u32" 32)) <|
      Fields.cons (.required "run_id" Uuid.codec) <|
      Fields.cons (.required "log_path" Codec.path) <|
      Fields.cons (.required "scenario" ScenarioReport.codec) <|
      Fields.cons (.nullable "validation" Audit.Report.codec) <|
      Fields.cons (.required "cleanup" Cleanup.codec) <|
      Fields.cons (.required "ended_at_ms" (Codec.natural "u64" 64)) Fields.done).map
    (fun (version, runId, logPath, scenario, validation?, cleanup, endedAt, ()) =>
      ⟨version, runId, logPath, scenario, validation?, cleanup, endedAt⟩)
    (fun r =>
      (r.version, r.runId, r.logPath, r.scenario, r.validation?, r.cleanup, r.endedAt, ()))

/-- Can the report be written as JSON? Its paths must be valid text. -/
def printable (r : Report) : Bool := r.logPath.IsText && r.validation?.all (·.printable)

/-- Did the scenario come to its end, with every property holding? -/
def passed (r : Report) : Bool :=
  r.scenario.completed && r.validation?.any (·.passed)

/-- The code of what ended the run early. -/
def errorCode? (r : Report) : Option ErrorCode :=
  match r.scenario.failure? with
  | some f => some f.code
  | none => r.validation?.bind (·.errorCode?)

def stepLine? (s : StepResult) : Option String :=
  match s.status with
  | .passed => none
  | .failed =>
    some ("ERROR: step " ++ s.name ++ " failed: " ++ (s.failure?.elim "" Failure.line))
  | .skipped => some ("SKIP step " ++ s.name)

/-- The printed lines about a scenario. The failure that ended it has a line of its own unless some
step failed. -/
def scenarioLines (r : ScenarioReport) : List String :=
  r.steps.filterMap stepLine? ++
    match r.failure? with
    | some f => if r.steps.any (·.status == .failed) then [] else ["ERROR: " ++ f.line]
    | none => []

def cleanupLines : Cleanup → List String
  | .failed message => ["ERROR: cleanup failed: " ++ message]
  | _ => []

def lines (r : Report) : List String :=
  scenarioLines r.scenario ++ (r.validation?.elim [] Audit.Report.lines) ++
    cleanupLines r.cleanup

end Report

end HistoryAudit.Harness
