/-
  HistoryAudit.Scenario.Basic

  A scripted dialogue with the shell, and what became of its steps.
-/
import HistoryAudit.Failure

namespace HistoryAudit

open Json

/-- The output that is waited for after a step's input. -/
inductive Checkpoint where
  | prompt
  | literal (text : String)
  | regex (pattern : String)
  deriving DecidableEq

namespace Checkpoint

def variants : Variants Checkpoint :=
  (Variants.bare "prompt" <|
    Variants.fields "literal" "Checkpoint" "Literal"
      (Fields.cons (.required "text" Codec.text) Fields.done) <|
    Variants.fields "regex" "Checkpoint" "Regex"
      (Fields.cons (.required "pattern" Codec.text) Fields.done) <|
    Variants.none).map
    (fun
      | .inl () => .prompt
      | .inr (.inl (text, ())) => .literal text
      | .inr (.inr (.inl (pattern, ()))) => .regex pattern)
    (fun
      | .prompt => .inl ()
      | .literal text => .inr (.inl (text, ()))
      | .regex pattern => .inr (.inr (.inl (pattern, ()))))

def codec : Codec Checkpoint := Codec.tagged "Checkpoint" "type" variants

end Checkpoint

/-- One line of input, and the output that must follow. -/
structure Step where
  name : String
  /-- The input; a line end follows it when it is sent. -/
  send : String
  expect : Checkpoint := .prompt
  deriving DecidableEq

def Step.codec : Codec Step :=
  Codec.record "Step" <|
    (Fields.cons (.required "name" Codec.text) <|
      Fields.cons (.required "send" Codec.text) <|
      Fields.cons (.withDefault "expect" Checkpoint.codec .prompt) Fields.done).map
    (fun (name, send, expect, ()) => ⟨name, send, expect⟩)
    (fun s => (s.name, s.send, s.expect, ()))

structure Scenario where
  name : String
  description? : Option String := none
  steps : List Step
  deriving DecidableEq

namespace Scenario

def codec : Codec Scenario :=
  Codec.record "Scenario" <|
    (Fields.cons (.required "name" Codec.text) <|
      Fields.cons (.nullable "description" Codec.text) <|
      Fields.cons (.required "steps" Step.codec.list) Fields.done).map
    (fun (name, description?, steps, ()) => ⟨name, description?, steps⟩)
    (fun s => (s.name, s.description?, s.steps, ()))

/-- Clears the history, runs a command that succeeds, one that fails and a block, which has no exit
code, and saves. -/
def standard : Scenario where
  name := "history-exit-duration"
  description? :=
    some "history records exit codes and durations, including a status-less block"
  steps :=
    [{ name := "clear-history", send := "builtin history clear" },
      { name := "run-success", send := "true" },
      { name := "run-failure", send := "false" },
      { name := "run-block", send := "begin; end" },
      { name := "save-history", send := "builtin history save" }]

end Scenario

inductive StepStatus where
  | passed
  | failed
  | skipped
  deriving DecidableEq

namespace StepStatus

def text : StepStatus → String
  | .passed => "passed"
  | .failed => "failed"
  | .skipped => "skipped"

def codec : Codec StepStatus :=
  Codec.choice ([.passed, .failed, .skipped].map fun s => (s.text, s)) text

end StepStatus

structure StepResult where
  name : String
  status : StepStatus
  /-- How long it took, in milliseconds. -/
  elapsed : Nat := 0
  failure? : Option Failure := none

def StepResult.codec : Codec StepResult :=
  Codec.record "StepResult" <|
    (Fields.cons (.required "name" Codec.text) <|
      Fields.cons (.required "status" StepStatus.codec) <|
      Fields.cons (.required "elapsed_ms" (Codec.natural "u64" 64)) <|
      Fields.cons (.optional "error" Failure.codec) Fields.done).map
    (fun (name, status, elapsed, failure?, ()) => ⟨name, status, elapsed, failure?⟩)
    (fun r => (r.name, r.status, r.elapsed, r.failure?, ()))

structure ScenarioReport where
  name : String
  steps : List StepResult
  /-- The failure that ended it early. -/
  failure? : Option Failure

namespace ScenarioReport

def codec : Codec ScenarioReport :=
  Codec.record "ScenarioReport" <|
    (Fields.cons (.required "name" Codec.text) <|
      Fields.cons (.required "steps" StepResult.codec.list) <|
      Fields.cons (.optional "error" Failure.codec) Fields.done).map
    (fun (name, steps, failure?, ()) => ⟨name, steps, failure?⟩)
    (fun r => (r.name, r.steps, r.failure?, ()))

/-- Did it come to its end? -/
def completed (r : ScenarioReport) : Bool := r.failure?.isNone

end ScenarioReport

end HistoryAudit
