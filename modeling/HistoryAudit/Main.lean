/-
  HistoryAudit.Main

  The program: it hands the arguments, the environment and files of the system to
  a command, and prints what the command says. No terminal device can be opened
  from here, so a run ends with that failure.
-/
import HistoryAudit.CommandLine.Outcome
import HistoryAudit.Json.Uuid

namespace HistoryAudit.CommandLine

/-- The number that a code stands for; some calls report it with a minus. -/
def positive (code : UInt32) : Nat := if code < 0x80000000 then code.toNat else (0 - code).toNat

def errorNumber : IO.Error → Nat
  | .alreadyExists _ n _ | .otherError n _ | .resourceBusy n _ | .resourceVanished n _
  | .unsupportedOperation n _ | .hardwareFault n _ | .unsatisfiedConstraints n _
  | .illegalOperation n _ | .protocolError n _ | .timeExpired n _ | .interrupted _ n _
  | .noFileOrDirectory _ n _ | .invalidArgument _ n _ | .permissionDenied _ n _
  | .resourceExhausted _ n _ | .inappropriateType _ n _ | .noSuchThing _ n _ => positive n
  | .unexpectedEof | .userError _ => 5

def readFile (path : OsText) : IO (Except Files.FileError (List UInt8)) := do
  try
    return .ok (← IO.FS.readBinFile path.shown).toList
  catch e => return .error (.ofNumber (errorNumber e))

/-- Removes a file if it can be removed. -/
def discardFile (path : OsText) : IO Unit := do
  try IO.FS.removeFile path.shown
  catch _ => return ()

/-- The variables that settings depend on. -/
def parentVariables : IO Config.Variables := do
  let names := [Config.namespaceVariable, Config.dataVariable, Config.homeVariable] ++
    Config.EnvPolicy.standard.allowlist
  names.eraseDups.filterMapM fun name => return (← IO.getEnv name).map fun value => (name, value)

def noDevice : Device :=
  .ofScript { breakdown? := some ⟨.openDevice, "terminal devices are not supported"⟩ }

def carryOutHere : Command → IO Outcome
  | .validate log json => do
    return .ofValidation json ⟨log, .ofRead (← readFile log) {}⟩
  | .run o => do
    let env ← parentVariables
    let content ← match o.scenario? with
      | some path => readFile path
      | none => pure (.ok [])
    match planOf o env fun _ => content with
    | .error f => return .ofFailure o.json f
    | .ok (config, scenario) =>
      let runId := Json.Uuid.ofRandom (← IO.getRandomBytes 16).toList
      let ending := Harness.run config scenario runId env noDevice {}
      -- The run knows no file of the system, so the log is removed here.
      if let some path := config.history.logPath? then discardFile path
      return .ofRun o.json ending.result

def performHere (arguments : List String) : IO UInt32 := do
  let outcome ← match Command.ofArguments (arguments.map .ofString) with
    | .ok c => carryOutHere c
    | .error h => pure (.ofHalt h)
  outcome.diagnostics.forM fun line => IO.eprintln line
  outcome.output.forM fun line => IO.println line
  return outcome.status.toUInt32

end HistoryAudit.CommandLine

def main (arguments : List String) : IO UInt32 :=
  HistoryAudit.CommandLine.performHere arguments
