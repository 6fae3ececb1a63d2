/-
  HistoryAudit.CommandLine.Outcome

  What a command prints and how it ends. The status tells a property that does
  not hold from a failure, and failures from each other by their codes.
-/
import HistoryAudit.CommandLine.Command
import HistoryAudit.Harness.Run
import HistoryAudit.Json.Printer
import HistoryAudit.Scenario.File

namespace HistoryAudit

namespace CommandLine

open Json (Value)

/-- What a command prints, and its status. -/
structure Outcome where
  output : List String := []
  diagnostics : List String := []
  status : Nat := 0
  deriving DecidableEq

namespace Outcome

def misuseStatus : Nat := 2

def failedStatus : Nat := 1

def statusOf (passed : Bool) (code? : Option ErrorCode) : Nat :=
  match code? with
  | some code => code.exitStatus
  | none => if passed then 0 else failedStatus

/-- The outcome where a path cannot be written as JSON, because it is not valid text. -/
def unprintable : Outcome :=
  { diagnostics := ["Error:   × path contains invalid UTF-8 characters"], status := failedStatus }

/-- The outcome of a report, which is printed as JSON or in lines. -/
def ofReport (json printable : Bool) (value : Value) (lines : List String) (status : Nat) :
    Outcome :=
  if !json then { output := lines, status }
  else if printable then { output := [value.text], status }
  else unprintable

def ofValidation (json : Bool) (r : Audit.Report) : Outcome :=
  ofReport json r.printable (Audit.Report.codec.toValue r) r.lines
    (statusOf r.passed r.errorCode?)

/-- Does the failure speak of opening a terminal device? -/
def concernsDevice (f : Failure) : Bool := Text.contains f.message "open pty"

/-- The outcome of a run that could not start. -/
def ofFailure (json : Bool) (f : Failure) : Outcome where
  output := if json then [(Failure.codec.toValue f).text] else []
  diagnostics :=
    (if json then [] else ["error: " ++ f.line]) ++
      if concernsDevice f then
        ["warning: PTY support appears unavailable; this is common in minimal containers"]
      else []
  status := f.code.exitStatus

def ofRun (json : Bool) : Except Failure Harness.Report → Outcome
  | .ok r =>
    ofReport json r.printable (Harness.Report.codec.toValue r) r.lines
      (statusOf r.passed r.errorCode?)
  | .error f => ofFailure json f

def help : List String :=
  ["End-to-end check of a shell's history persistence",
    "",
    "Usage: histprobe [--color auto|always|never] <COMMAND>",
    "",
    "Commands:",
    "  run       Spawn the shell, run the scenario, validate and remove the history log",
    "            [--shell SHELL] [--namespace NAME] [--data-dir DIR] [--prompt PROMPT]",
    "            [--timeout-ms MS] [--scenario FILE] [--json] [-v] [-- ARGS...]",
    "  validate  Validate an existing history log without deleting it",
    "            --log FILE [--json]",
    "  help      Print this message"]

def ofHalt : Halt → Outcome
  | .help => { output := help }
  | .version => { output := ["histprobe 0.1.0"] }
  | .misuse m => { diagnostics := ["error: " ++ m.message], status := misuseStatus }

end Outcome

/-- What a command leaves: its outcome, the device, and all around. -/
structure Ending where
  outcome : Outcome
  device : Device
  around : Surroundings

def scenarioOf (o : RunOptions) (read : OsText → Except Files.FileError (List UInt8)) :
    Except Failure Scenario :=
  match o.scenario? with
  | some path => Scenario.ofRead path (read path)
  | none => .ok .standard

def planOf (o : RunOptions) (env : Config.Variables)
    (read : OsText → Except Files.FileError (List UInt8)) : Except Failure (Config × Scenario) :=
  (o.apply (.ofEnvironment env)).bind fun c => (scenarioOf o read).map fun s => (c, s)

namespace Command

/-- Carries out a command. -/
def carryOut (c : Command) (runId : String) (env : Config.Variables) (d : Device)
    (s : Surroundings) : Ending :=
  match c with
  | .validate log json => ⟨.ofValidation json (Audit.validate s.files log {}), d, s⟩
  | .run o =>
    match planOf o env s.files.read with
    | .error f => ⟨.ofFailure o.json f, d, s⟩
    | .ok (config, scenario) =>
      let ending := Harness.run config scenario runId env d s
      ⟨.ofRun o.json ending.result, ending.device, ending.around⟩

end Command

/-- Carries out the command that arguments ask for. -/
def perform (arguments : List OsText) (runId : String) (env : Config.Variables) (d : Device)
    (s : Surroundings) : Ending :=
  match Command.ofArguments arguments with
  | .ok c => c.carryOut runId env d s
  | .error h => ⟨.ofHalt h, d, s⟩

end CommandLine

end HistoryAudit
