/-
  HistoryAudit.Proofs.Scenario.Loop

  The loop over the steps of a scenario. It goes through all of them, also behind
  a failure, which it finds in the report at the top of every turn. This is the
  same as carrying out the steps until one fails and skipping the others
  (`foldl_turn`), so a run can be followed by recursion on the steps
  (`runScenario_eq`).
-/
import HistoryAudit.Scenario.Run

namespace HistoryAudit

namespace Dialogue

/-- Carries out steps until one fails. -/
def runSteps : List (Step × Option Pattern) → Dialogue →
    (List StepResult × Option Failure) × Dialogue
  | [], g => (([], none), g)
  | (step, p?) :: rest, g =>
    let started := g.clock
    match g.ask step p? with
    | (.ok _, g) =>
      let ((results, failure?), g') := runSteps rest g
      ((⟨step.name, .passed, g.clock - started, none⟩ :: results, failure?), g')
    | (.error f, g) =>
      let skipped := rest.map fun (step, _) => (⟨step.name, .skipped, 0, none⟩ : StepResult)
      ((⟨step.name, .failed, g.clock - started, some f⟩ :: skipped, some f), g)

section Turns

variable (entries : List (Step × Option Pattern)) (report : ScenarioReport) (g : Dialogue)

/-- Behind a failure the steps are skipped, and the shell is left alone. -/
theorem foldl_turn_failed (h : report.failure?.isSome = true) :
    entries.foldl turn (report, g) =
      ({ report with
          steps := report.steps ++ entries.map fun entry => ⟨entry.1.name, .skipped, 0, none⟩ },
        g) := by
  induction entries generalizing report with
  | nil => rw [List.foldl_nil, List.map_nil, List.append_nil]
  | cons entry rest ih =>
    let skipped : ScenarioReport :=
      { report with steps := report.steps ++ [⟨entry.1.name, .skipped, 0, none⟩] }
    have hturn : turn (report, g) entry = (skipped, g) := if_pos h
    rw [List.foldl_cons, hturn, ih skipped h, List.append_assoc]
    rfl

/-- As long as nothing has failed, the loop carries out the steps until one fails. -/
theorem foldl_turn (h : report.failure? = none) :
    entries.foldl turn (report, g) =
      ({ report with
          steps := report.steps ++ (runSteps entries g).1.1
          failure? := (runSteps entries g).1.2 },
        (runSteps entries g).2) := by
  -- The report carries what was done so far, so it varies.
  induction entries generalizing report g with
  | nil =>
    rw [List.foldl_nil, runSteps, List.append_nil, ← h]
  | cons entry rest ih =>
    obtain ⟨step, p?⟩ := entry
    have hgoes : ¬report.failure?.isSome = true := by
      rw [h]
      decide
    rcases hask : g.ask step p? with ⟨f | m, g₁⟩
    · -- The flag is set, and every turn behind this one skips its step.
      let failed : ScenarioReport :=
        { report with
          steps := report.steps ++ [⟨step.name, .failed, g₁.clock - g.clock, some f⟩]
          failure? := some f }
      have hturn : turn (report, g) (step, p?) = (failed, g₁) := by
        simp only [turn, if_neg hgoes, hask, failed]
      rw [List.foldl_cons, hturn, foldl_turn_failed rest failed g₁ rfl, runSteps, hask,
        List.append_assoc]
      rfl
    · -- The flag is not set, and the next turn goes on.
      let passed : ScenarioReport :=
        { report with steps := report.steps ++ [⟨step.name, .passed, g₁.clock - g.clock, none⟩] }
      have hturn : turn (report, g) (step, p?) = (passed, g₁) := by
        simp only [turn, if_neg hgoes, hask, passed]
      rw [List.foldl_cons, hturn, ih passed g₁ h, runSteps, hask, List.append_assoc]
      rfl

end Turns

/-- What steps wait for is added to them, and they stay as they are. -/
theorem withPatterns_steps {prompt : String} {steps : List Step}
    {entries : List (Step × Option Pattern)}
    (h : Scenario.withPatterns prompt steps = .ok entries) : entries.map (·.1) = steps := by
  induction steps generalizing entries with
  | nil => cases h; rfl
  | cons step rest ih =>
    rw [Scenario.withPatterns] at h
    split at h
    · rename_i p others hp hothers
      cases h
      rw [List.map_cons, ih hothers]
    · cases h
    · cases h

/-- A run of a scenario: the first prompt is waited for, and then the steps are carried out until one
fails. If the prompt does not come, all of them are skipped. -/
theorem runScenario_eq (g : Dialogue) (s : Scenario) :
    g.runScenario s =
      match Scenario.withPatterns g.prompt s.steps with
      | .error f => (.error f, g)
      | .ok entries =>
        match g.expectPrompt with
        | (.error f, g) =>
          let skipped := s.steps.map fun step => (⟨step.name, .skipped, 0, none⟩ : StepResult)
          (.ok ⟨s.name, skipped, some f⟩, g)
        | (.ok _, g) =>
          let ((results, failure?), g) := runSteps entries g
          (.ok ⟨s.name, results, failure?⟩, g) := by
  rw [runScenario]
  cases hentries : Scenario.withPatterns g.prompt s.steps with
  | error f => rfl
  | ok entries =>
    simp only
    rcases g.expectPrompt with ⟨f | m, g₁⟩
    · -- Without the first prompt the flag is set before the first turn.
      have hloop := foldl_turn_failed entries ⟨s.name, [], some f⟩ g₁ rfl
      simp only [hloop, ← withPatterns_steps hentries, List.map_map, List.nil_append,
        Function.comp_def]
    · have hloop := foldl_turn entries ⟨s.name, [], none⟩ g₁ rfl
      simp only [hloop, List.nil_append]

end Dialogue

end HistoryAudit
