/-
  HistoryAudit.Proofs.Scenario.Course

  How the steps of a scenario end: those that pass come first, at most one fails,
  and the others are skipped. A course follows the recursion over the steps
  (`runSteps_course`), and the report of a scenario has one of three shapes
  (`runScenario_report`).
-/
import HistoryAudit.Proofs.Dialogue.Stream
import HistoryAudit.Proofs.Scenario.Loop

namespace HistoryAudit

/-! ## Results and reports -/

namespace StepResult

/-- The step has passed, and there is no failure. -/
structure Passed (r : StepResult) : Prop where
  status : r.status = .passed
  failure : r.failure? = none

/-- The step has ended with this failure. -/
structure Failed (f : Failure) (r : StepResult) : Prop where
  status : r.status = .failed
  failure : r.failure? = some f

/-- The step was not begun: there is no failure, and it took no time. -/
structure Skipped (r : StepResult) : Prop where
  status : r.status = .skipped
  failure : r.failure? = none
  elapsed : r.elapsed = 0

end StepResult

namespace ScenarioReport

/-- All steps have passed. -/
structure Complete (r : ScenarioReport) : Prop where
  failure : r.failure? = none
  steps : ∀ x ∈ r.steps, x.Passed

/-- Some steps have passed, the next one has failed, and the others were skipped. The failure of the
step is that of the report. -/
structure Aborted (f : Failure) (r : ScenarioReport) : Prop where
  failure : r.failure? = some f
  steps : ∃ before x after, r.steps = before ++ x :: after ∧
    (∀ y ∈ before, y.Passed) ∧ x.Failed f ∧ ∀ y ∈ after, y.Skipped

/-- No step was begun. -/
structure NeverBegan (f : Failure) (r : ScenarioReport) : Prop where
  failure : r.failure? = some f
  steps : ∀ x ∈ r.steps, x.Skipped

/-- A report without a failure tells of a complete scenario, if it has one of the shapes. -/
theorem completed_iff {r : ScenarioReport}
    (h : r.Complete ∨ (∃ f, r.Aborted f) ∨ ∃ f, r.NeverBegan f) :
    r.completed = true ↔ r.Complete := by
  rw [completed, Option.isNone_iff_eq_none]
  refine ⟨fun hnone => ?_, Complete.failure⟩
  rcases h with hc | ⟨f, ha⟩ | ⟨f, hn⟩
  · exact hc
  · rw [ha.failure] at hnone
    cases hnone
  · rw [hn.failure] at hnone
    cases hnone

end ScenarioReport

/-! ## Steps one after the other -/

/-- The results of steps, and the failure that ended them early: steps pass until one fails, and
the others are skipped. -/
inductive Course : List StepResult → Option Failure → Prop where
  | done : Course [] none
  | passed {r : StepResult} {rs : List StepResult} {f? : Option Failure} (h : r.Passed)
      (others : Course rs f?) : Course (r :: rs) f?
  | failed {r : StepResult} {rs : List StepResult} {f : Failure} (h : r.Failed f)
      (others : ∀ x ∈ rs, x.Skipped) : Course (r :: rs) (some f)

section Course

variable {rs : List StepResult} {f : Failure}

theorem Course.all_passed (h : Course rs none) : ∀ r ∈ rs, r.Passed := by
  generalize hf : (none : Option Failure) = f? at h
  induction h with
  | done => exact fun r hr => absurd hr List.not_mem_nil
  | passed hp others ih => exact List.forall_mem_cons.mpr ⟨hp, ih hf⟩
  | failed => cases hf

theorem Course.split (h : Course rs (some f)) :
    ∃ before r after, rs = before ++ r :: after ∧
      (∀ x ∈ before, x.Passed) ∧ r.Failed f ∧ ∀ x ∈ after, x.Skipped := by
  generalize hf : some f = f? at h
  induction h with
  | done => cases hf
  | @passed r rs f? hp others ih =>
    obtain ⟨before, x, after, rfl, hbefore, hx, hafter⟩ := ih hf
    exact ⟨r :: before, x, after, rfl, List.forall_mem_cons.mpr ⟨hp, hbefore⟩, hx, hafter⟩
  | @failed r rs f' hr others =>
    cases hf
    exact ⟨[], r, rs, rfl, fun x hx => absurd hx List.not_mem_nil, hr, others⟩

end Course

/-- Results that tell of steps which were not begun. -/
theorem skipped_of_mem {α : Type} {name : α → String} {steps : List α} :
    ∀ r ∈ steps.map fun step => (⟨name step, .skipped, 0, none⟩ : StepResult), r.Skipped := by
  intro r hr
  obtain ⟨step, -, rfl⟩ := List.mem_map.mp hr
  exact ⟨rfl, rfl, rfl⟩

namespace Dialogue

/-- The steps of a scenario run a course, and each has its result under its name. -/
theorem runSteps_course (steps : List (Step × Option Pattern)) (g : Dialogue) :
    Course (runSteps steps g).1.1 (runSteps steps g).1.2 ∧
      (runSteps steps g).1.1.map (·.name) = steps.map (·.1.name) := by
  induction steps generalizing g with
  | nil => exact ⟨.done, rfl⟩
  | cons entry rest ih =>
    obtain ⟨step, p?⟩ := entry
    rw [runSteps]
    rcases hask : g.ask step p? with ⟨f | m, g₁⟩
    · refine ⟨.failed ⟨rfl, rfl⟩ skipped_of_mem, ?_⟩
      simp only [List.map_cons, List.map_map, Function.comp_def]
    · obtain ⟨hcourse, hnames⟩ := ih g₁
      refine ⟨.passed ⟨rfl, rfl⟩ hcourse, ?_⟩
      simp only [List.map_cons, hnames]

/-- The report of a scenario: every step has its result, in the order of the steps. If the first
prompt came, then all steps have passed, or one of them has failed and ended the run. If it did not
come, no step was begun, and the report has the failure of that wait. -/
theorem runScenario_report {g g' : Dialogue} {s : Scenario} {r : ScenarioReport}
    (h : g.runScenario s = (.ok r, g')) :
    r.steps.map (·.name) = s.steps.map (·.name) ∧
      (((∃ m, g.expectPrompt.1 = .ok m) ∧ (r.Complete ∨ ∃ f, r.Aborted f)) ∨
        ∃ f, g.expectPrompt.1 = .error f ∧ r.NeverBegan f) ∧
      (r.completed = true ↔ r.Complete) := by
  rw [runScenario_eq] at h
  split at h
  · cases h
  · rename_i entries hentries
    split at h
    · rename_i f g₁ hprompt
      cases h
      -- The first prompt did not come, so no step was begun.
      have hnever : ScenarioReport.NeverBegan f
          ⟨s.name, s.steps.map fun step => ⟨step.name, .skipped, 0, none⟩, some f⟩ :=
        ⟨rfl, skipped_of_mem⟩
      refine ⟨?_, .inr ⟨f, by rw [hprompt], hnever⟩,
        ScenarioReport.completed_iff (.inr (.inr ⟨f, hnever⟩))⟩
      simp only [List.map_map, Function.comp_def]
    · rename_i m g₁ hprompt
      obtain ⟨hcourse, hnames⟩ := runSteps_course entries g₁
      have hr : r = ⟨s.name, (runSteps entries g₁).1.1, (runSteps entries g₁).1.2⟩ := by
        cases h
        rfl
      -- It came, and the course of the steps decides.
      have hshape : r.Complete ∨ ∃ f, r.Aborted f := by
        cases hf : (runSteps entries g₁).1.2 with
        | none =>
          rw [hf] at hcourse hr
          exact .inl ⟨by rw [hr], by rw [hr]; exact hcourse.all_passed⟩
        | some f =>
          rw [hf] at hcourse hr
          exact .inr ⟨f, by rw [hr], by rw [hr]; exact hcourse.split⟩
      refine ⟨?_, .inl ⟨⟨m, by rw [hprompt]⟩, hshape⟩,
        ScenarioReport.completed_iff (hshape.imp_right .inl)⟩
      rw [hr, hnames, ← withPatterns_steps hentries, List.map_map, Function.comp_def]

/-- The shell ends while the second of three steps waits for a text. -/
theorem runScenario_report_of_exit :
    let g := ofCues [{ output := .data (Text.Utf8.encode "histprobe 1> ") },
      { output := .data (Text.Utf8.encode "a\nhistprobe 2> "), lines := 1, due := 20 },
      { output := .hungUp, lines := 2 }]
    let s : Scenario :=
      { name := "three"
        steps := [⟨"first", "a", .prompt⟩, ⟨"second", "b", .literal "c"⟩,
          ⟨"third", "d", .regex "e+"⟩] }
    ∃ r g', g.runScenario s = (.ok r, g') ∧
      r.steps.map (fun x => (x.name, x.status, x.elapsed)) =
        [("first", .passed, 20), ("second", .failed, 0), ("third", .skipped, 0)] ∧
      ∃ f, r.Aborted f := by
  intro g s
  have hresults : (g.runScenario s).1.toOption.map (fun r =>
      r.steps.map fun x => (x.name, x.status, x.elapsed)) =
        some [("first", .passed, 20), ("second", .failed, 0), ("third", .skipped, 0)] := by
    decide +kernel
  obtain ⟨r, hr, hsteps⟩ := Option.map_eq_some_iff.mp hresults
  have hrun : g.runScenario s = (.ok r, (g.runScenario s).2) := by rw [← ok_of_toOption hr]
  refine ⟨r, _, hrun, hsteps, ?_⟩
  have hstatus : r.steps.map (·.status) = [.passed, .failed, .skipped] := by
    have h := congrArg (List.map fun x => x.2.1) hsteps
    rwa [List.map_map] at h
  obtain ⟨-, ⟨-, hc | ha⟩ | ⟨f, -, hn⟩, -⟩ := runScenario_report hrun
  · -- A step that has failed is not among steps that have all passed.
    have hmem : StepStatus.failed ∈ r.steps.map (·.status) := by rw [hstatus]; decide
    obtain ⟨x, hx, hfailed⟩ := List.mem_map.mp hmem
    rw [(hc.steps x hx).status] at hfailed
    cases hfailed
  · exact ha
  · -- The first step has passed, so the scenario had begun.
    have hmem : StepStatus.passed ∈ r.steps.map (·.status) := by rw [hstatus]; decide
    obtain ⟨x, hx, hpassed⟩ := List.mem_map.mp hmem
    rw [(hn.steps x hx).status] at hpassed
    cases hpassed

end Dialogue

end HistoryAudit
