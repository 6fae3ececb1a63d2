/-
  HistoryAudit.CommandLine.Command

  The commands: a whole run with a shell, and the validation of a log that is
  there already.
-/
import HistoryAudit.CommandLine.Arguments
import HistoryAudit.Config.Harness
import HistoryAudit.Text.Digits
import HistoryAudit.Text.Quoted

namespace HistoryAudit

namespace CommandLine

open Json (Value)

/-- What is asked of a run. What is left out follows from the environment. -/
structure RunOptions where
  shell? : Option String := none
  historyName? : Option String := none
  dataDir? : Option OsText := none
  prompt? : Option String := none
  /-- How long expected output is waited for, in milliseconds. -/
  timeout? : Option Nat := none
  scenario? : Option OsText := none
  json : Bool := false
  /-- The arguments of the shell in place of others, if there are any. -/
  shellArgs : List String := []

inductive Command where
  | run (options : RunOptions)
  | validate (log : OsText) (json : Bool)

/-! ## Arguments -/

/-- A number of 64 bits; a plus may stand before it. -/
def natural? (text : String) : Option Nat :=
  let n? :=
    match text.toList with
    | '+' :: digits => Text.number? 10 digits
    | digits => Text.number? 10 digits
  n?.filter (· < Nat.pow 2 64)

def textValue (accepts : String → Bool) : Effect := .value fun value => value.text?.any accepts

/-- The switch for colours, which every command has; they are used nowhere. -/
def colorSwitch : Switch := ⟨"color", none, textValue (["auto", "always", "never"].contains ·)⟩

def helpSwitch : Switch := ⟨"help", some 'h', .halt .help⟩

def mainSwitches : List Switch :=
  [colorSwitch, helpSwitch, ⟨"version", some 'V', .halt .version⟩]

def runSwitches : List Switch :=
  [colorSwitch, helpSwitch,
    ⟨"shell", none, textValue fun _ => true⟩,
    ⟨"namespace", none, textValue fun _ => true⟩,
    ⟨"data-dir", none, .value fun path => path.bytes ≠ []⟩,
    ⟨"prompt", none, textValue fun _ => true⟩,
    ⟨"timeout-ms", none, textValue fun text => (natural? text).isSome⟩,
    ⟨"scenario", none, .value fun path => path.bytes ≠ []⟩,
    ⟨"json", none, .mark⟩,
    ⟨"verbose", some 'v', .mark⟩]

def validateSwitches : List Switch :=
  [colorSwitch, helpSwitch, ⟨"log", none, .value fun path => path.bytes ≠ []⟩, ⟨"json", none, .mark⟩]

namespace Command

def runOf (arguments : List OsText) : Except Halt Command :=
  (readSwitches runSwitches arguments []).bind fun (found, behind) =>
    let options (shellArgs : List String) : Command :=
      .run
        { shell? := found.text? "shell"
          historyName? := found.text? "namespace"
          dataDir? := found.value? "data-dir"
          prompt? := found.text? "prompt"
          timeout? := (found.text? "timeout-ms").bind natural?
          scenario? := found.value? "scenario"
          json := found.has "json"
          shellArgs }
    match behind with
    | .nothing => .ok (options [])
    | .trailing shellArgs =>
      match shellArgs.mapM (·.text?) with
      | some shellArgs => .ok (options shellArgs)
      | none => .error (.misuse .notText)
    | .word word _ => .error (.misuse (.unknown word.shown))

def validateOf (arguments : List OsText) : Except Halt Command :=
  (readSwitches validateSwitches arguments []).bind fun (found, behind) =>
    match behind, found.value? "log" with
    | .word word _, _ | .trailing (word :: _), _ => .error (.misuse (.unknown word.shown))
    | _, some log => .ok (.validate log (found.has "json"))
    | _, none => .error (.misuse (.required "log"))

def helpOf : List OsText → Except Halt Command
  | [] => .error .help
  | word :: behind =>
    if behind = [] ∧ word.shown ∈ ["run", "validate", "help"] then .error .help
    else .error (.misuse (.unknownCommand word.shown))

/-- The command that arguments ask for. -/
def ofArguments (arguments : List OsText) : Except Halt Command :=
  (readSwitches mainSwitches arguments []).bind fun (_, behind) =>
    match behind with
    | .word word behind =>
      match word.text? with
      | some "run" => runOf behind
      | some "validate" => validateOf behind
      | some "help" => helpOf behind
      | _ => .error (.misuse (.unknownCommand word.shown))
    | .trailing (word :: _) => .error (.misuse (.unknown word.shown))
    | .nothing | .trailing [] => .error (.misuse .noCommand)

end Command

/-! ## Settings -/

def nameFailure (name : String) : Failure :=
  ⟨.protocol, "invalid history namespace " ++ Text.quoted name,
    some (.object [("hint", .string "use only ASCII letters, digits and underscores")])⟩

namespace RunOptions

/-- The shell: one that is named gets no arguments, and otherwise a new prompt is set by arguments.
Arguments that are given replace all others. -/
def shell (o : RunOptions) (shell : Config.Shell) : Config.Shell :=
  { shell with
    command := o.shell?.getD shell.command
    args :=
      -- From the strongest wish to the weakest.
      if o.shellArgs ≠ [] then o.shellArgs
      else if o.shell?.isSome then []
      else (o.prompt?.map Config.defaultShellArgs).getD shell.args
    prompt := o.prompt?.getD shell.prompt }

/-- The settings that the options make of others. -/
def apply (o : RunOptions) (c : Config) : Except Failure Config :=
  let config (name : String) : Config :=
    { c with
      history := { c.history with name, dataDir? := o.dataDir?.or c.history.dataDir? }
      timeout := o.timeout?.getD c.timeout
      shell := o.shell c.shell }
  match o.historyName? with
  | none => .ok (config c.history.name)
  | some name =>
    if Config.isValidNamespace name then .ok (config name) else .error (nameFailure name)

end RunOptions

end CommandLine

end HistoryAudit
