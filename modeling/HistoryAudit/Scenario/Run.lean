/-
  HistoryAudit.Scenario.Run

  Carrying out a scenario: one line is sent, and the next only when the output
  that must follow it has come. After a failure all further steps are skipped.
-/
import HistoryAudit.Dialogue.Basic

namespace HistoryAudit

open Json (Value)

namespace Scenario

def isLineEnd (c : Char) : Bool := c == '\n' || c == '\r'

/-- The step whose input is not a single line. -/
def longStep? (s : Scenario) : Option Step := s.steps.find? (·.send.toList.any isLineEnd)

def checkPatterns : List Step → Except Failure Unit
  | [] => .ok ()
  | step :: rest =>
    match step.expect with
    | .regex source =>
      match Pattern.ofRegex source with
      | .ok _ => checkPatterns rest
      | .error f => .error f
    | _ => checkPatterns rest

/-- Refuses a scenario without steps, with input of several lines, or with a regular expression that
is not valid. -/
def check (s : Scenario) : Except Failure Unit :=
  if s.steps.isEmpty then
    .error ⟨.protocol, "scenario has no steps",
      some (.object [("scenario", .string s.name)])⟩
  else
    match s.longStep? with
    | some step =>
      .error ⟨.protocol, "step input must be a single line",
        some (.object [("step", .string step.name)])⟩
    | none => checkPatterns s.steps

/-- What a step waits for; the prompt is left open, as its number is not yet known. -/
def patternOf (prompt : String) (step : Step) : Except Failure (Option Pattern) :=
  match step.expect with
  | .prompt => .ok none
  | other => (Pattern.ofCheckpoint prompt other).map some

def withPatterns (prompt : String) : List Step → Except Failure (List (Step × Option Pattern))
  | [] => .ok []
  | step :: rest =>
    match patternOf prompt step, withPatterns prompt rest with
    | .ok p, .ok others => .ok ((step, p) :: others)
    | .error f, _ => .error f
    | .ok _, .error f => .error f

end Scenario

namespace Dialogue

/-- Sends the input of a step and waits for what must follow. -/
def ask (g : Dialogue) (step : Step) (p? : Option Pattern) : Except Failure Match × Dialogue :=
  match g.sendLine step.send with
  | (.error f, g) => (.error f, g)
  | (.ok (), g) =>
    match p? with
    | some p => g.expectMatch p
    | none => g.expectPrompt

/-- One turn of the loop over the steps. Behind a failure a step is skipped. Any other one is carried
out, and if it fails the report has its failure. -/
def turn (state : ScenarioReport × Dialogue) (entry : Step × Option Pattern) :
    ScenarioReport × Dialogue :=
  let (report, g) := state
  let (step, p?) := entry
  if report.failure?.isSome then
    ({ report with steps := report.steps ++ [⟨step.name, .skipped, 0, none⟩] }, g)
  else
    let started := g.clock
    match g.ask step p? with
    | (.ok _, g) =>
      let result : StepResult := ⟨step.name, .passed, g.clock - started, none⟩
      ({ report with steps := report.steps ++ [result] }, g)
    | (.error f, g) =>
      let result : StepResult := ⟨step.name, .failed, g.clock - started, some f⟩
      ({ report with steps := report.steps ++ [result], failure? := some f }, g)

/-- Carries out a scenario with a shell that was just started: the first prompt is waited for, and
then the steps are gone through. Only a regular expression that is not valid keeps this from a
report. -/
def runScenario (g : Dialogue) (s : Scenario) : Except Failure ScenarioReport × Dialogue :=
  match Scenario.withPatterns g.prompt s.steps with
  | .error f => (.error f, g)
  | .ok entries =>
    let (first, g) := g.expectPrompt
    let failure? := match first with
      | .ok _ => none
      | .error f => some f
    let (report, g) := entries.foldl turn (⟨s.name, [], failure?⟩, g)
    (.ok report, g)

end Dialogue

end HistoryAudit
