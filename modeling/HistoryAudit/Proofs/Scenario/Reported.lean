/-
  HistoryAudit.Proofs.Scenario.Reported

  The failures that the report of a scenario can tell. They come from writing to the
  shell and from reading, from a wait without a match, or from a prompt that is too
  long for a pattern (`Failure.Reported`), and whatever fails in a dialogue fails
  with one of them (`ask_reported`).
-/
import HistoryAudit.Proofs.Dialogue.LostOutput
import HistoryAudit.Proofs.Scenario.Loop

namespace HistoryAudit

/-- A failure that the report of a scenario can tell. -/
inductive Failure.Reported : Failure → Prop
  /-- The shell could not be written to, or not be read from. -/
  | source (message source : String) : Reported (.ofSource message source)
  | timeout (p : Pattern) (waited : Nat) (pending : String) (screen : Screen.Snapshot) :
    Reported (Dialogue.timeoutFailure p waited pending screen)
  | exit (p : Pattern) (pending : String) : Reported (Dialogue.exitFailure p pending)
  /-- The prompt is too long. -/
  | length {text : String} {f : Failure} (h : Pattern.checkLength text = .error f) : Reported f

theorem Session.write_reported {s : Session} {bytes : List UInt8} {f : Failure}
    (h : (s.write bytes).1 = .error f) : f.Reported := by
  unfold Session.write at h
  split at h
  · cases h
    exact .source _ _
  · split at h
    · cases h
      exact .source _ _
    · cases h

namespace Dialogue

variable {g g' : Dialogue} {f : Failure}

theorem sendLine_reported {text : String} (h : g.sendLine text = (.error f, g')) : f.Reported :=
  Session.write_reported (congrArg Prod.fst h)

theorem expectMatch_reported {p : Pattern} (h : g.expectMatch p = (.error f, g')) :
    f.Reported := by
  unfold expectMatch at h
  split at h
  · rename_i outcome g₁ hends
    cases outcome with
    | matched m => cases h
    | timedOut waited pending screen =>
      cases h
      exact .timeout p waited pending screen
    | exited pending =>
      cases h
      exact .exit p pending
  · rename_i f₁ g₁ hends
    cases h
    -- A wait that breaks off tells of the call that failed.
    obtain ⟨early, late, c, hcut⟩ := waitUntil_cutOff hends
    obtain ⟨e, -, rfl⟩ := hcut.failed
    exact .source _ _

theorem expectPrompt_reported (h : g.expectPrompt = (.error f, g')) : f.Reported := by
  unfold expectPrompt at h
  split at h
  · rename_i f₁ hpattern
    cases h
    -- Before the wait, only the length of the expression can be refused.
    unfold Pattern.ofPrompt at hpattern
    split at hpattern
    · cases hpattern
    · split at hpattern
      · cases hpattern
      · rename_i e hlength
        cases hpattern
        exact .length hlength
  · split at h
    · cases h
    · rename_i hmatch
      cases h
      exact expectMatch_reported hmatch

theorem ask_reported {step : Step} {p? : Option Pattern} (h : g.ask step p? = (.error f, g')) :
    f.Reported := by
  unfold ask at h
  split at h
  · rename_i hsend
    cases h
    exact sendLine_reported hsend
  · cases p? with
    | some p => exact expectMatch_reported h
    | none => exact expectPrompt_reported h

/-- All failures of steps, and the one that ended them early. -/
theorem runSteps_reported (steps : List (Step × Option Pattern)) (g : Dialogue) :
    (∀ x ∈ (runSteps steps g).1.1, ∀ f, x.failure? = some f → f.Reported) ∧
      ∀ f, (runSteps steps g).1.2 = some f → f.Reported := by
  induction steps generalizing g with
  | nil => exact ⟨fun x hx => absurd hx List.not_mem_nil, fun f hf => by cases hf⟩
  | cons entry rest ih =>
    obtain ⟨step, p?⟩ := entry
    rw [runSteps]
    rcases hask : g.ask step p? with ⟨f | m, g₁⟩
    · have hreported := ask_reported hask
      -- The steps behind the one that failed are skipped, and a skipped step has no failure.
      refine ⟨List.forall_mem_cons.mpr ⟨?_, fun x hx => ?_⟩, ?_⟩
      · rintro f' ⟨⟩
        exact hreported
      · obtain ⟨-, -, rfl⟩ := List.mem_map.mp hx
        rintro f' ⟨⟩
      · rintro f' ⟨⟩
        exact hreported
    · obtain ⟨hsteps, hended⟩ := ih g₁
      exact ⟨List.forall_mem_cons.mpr ⟨(fun f hf => by cases hf), hsteps⟩, hended⟩

/-- The report of a scenario tells only such failures. -/
theorem runScenario_reported {s : Scenario} {r : ScenarioReport}
    (h : g.runScenario s = (.ok r, g')) :
    (∀ x ∈ r.steps, ∀ f, x.failure? = some f → f.Reported) ∧
      ∀ f, r.failure? = some f → f.Reported := by
  rw [runScenario_eq] at h
  split at h
  · cases h
  · rename_i steps hsteps
    split at h
    · rename_i f g₁ hprompt
      cases h
      refine ⟨fun x hx => ?_, ?_⟩
      · -- The steps that are skipped tell of no failure.
        obtain ⟨step, -, rfl⟩ := List.mem_map.mp hx
        nofun
      · rintro f' ⟨⟩
        exact expectPrompt_reported hprompt
    · rename_i m g₁ hprompt
      have hreported := runSteps_reported steps g₁
      cases h
      exact hreported

end Dialogue

end HistoryAudit
