/-
  HistoryAudit.StandIn.Mode

  A stand-in for the shell under test: how it keeps its history, and the settings
  of a run that starts it.
-/
import HistoryAudit.Config.Harness

namespace HistoryAudit.StandIn

open Json

/-- How the stand-in keeps its history. -/
inductive Mode where
  /-- One record for each command. -/
  | normal
  /-- Several lines for each command, with the same `id`. -/
  | split
  | noDuration
  | noSave
  /-- A block records the exit code 0. -/
  | blockExit
  deriving DecidableEq, Repr

namespace Mode

def text : Mode → String
  | .normal => "normal"
  | .split => "split"
  | .noDuration => "no-duration"
  | .noSave => "no-save"
  | .blockExit => "block-exit"

/-- The mode that is written so; any other text means the normal one. -/
def parse (name : String) : Mode :=
  ([split, noDuration, noSave, blockExit].find? (·.text == name)).getD .normal

end Mode

def defaultPrompt : String := "fake> "

def modeVariable : String := "HISTPROBE_FAKE_MODE"

def promptVariable : String := "HISTPROBE_FAKE_PROMPT"

/-- The settings of a run that starts the stand-in and keeps its history below `dataDir`. -/
def configFor (command : String) (dataDir : OsText) (name : String) (mode : Mode) : Config :=
  let base := Config.ofEnvironment []
  let set := Value.insertMember modeVariable mode.text base.shell.env.set
  let set := Value.insertMember promptVariable defaultPrompt set
  { base with
    shell :=
      { command, args := [], cwd? := none, prompt := defaultPrompt
        env := { base.shell.env with set } }
    history := .inDataDir name dataDir }

end HistoryAudit.StandIn
