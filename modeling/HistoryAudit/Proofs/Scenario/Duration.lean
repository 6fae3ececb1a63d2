/-
  HistoryAudit.Proofs.Scenario.Duration

  How long a scenario takes. Sending takes no time, and a wait for output ends
  less than one pause behind its deadline, whatever the shell prints and however
  its reads go. So a scenario takes a wait for the first prompt, and one for each
  of its steps (`within_runScenario`).
-/
import HistoryAudit.Proofs.Dialogue.Deadline
import HistoryAudit.Proofs.Scenario.Course
import HistoryAudit.Proofs.Session.Duration

namespace HistoryAudit.Dialogue

/-- The longest that a wait for output can take: all of its time, and a last pause that is begun
just before its end. -/
def longestWait (timeout : Nat) : Nat := timeout + (Session.idlePause - 1)

/-- From the one dialogue to the other it takes no longer than so many waits. -/
structure Within (waits : Nat) (g g' : Dialogue) : Prop where
  timeout : g'.timeout = g.timeout
  clock : g'.clock ≤ g.clock + waits * longestWait g.timeout

namespace Within

variable {m n : Nat} {g₁ g₂ g₃ : Dialogue}

theorem trans (h : Within m g₁ g₂) (h' : Within n g₂ g₃) : Within (m + n) g₁ g₃ where
  timeout := h'.timeout.trans h.timeout
  clock := by
    have hfirst := h.clock
    have hsecond := h'.clock
    rw [h.timeout] at hsecond
    rw [Nat.add_mul]
    omega

theorem mono (h : Within m g₁ g₂) (hmn : m ≤ n) : Within n g₁ g₂ where
  timeout := h.timeout
  clock := by
    have hclock := h.clock
    have hmul := Nat.mul_le_mul_right (longestWait g₁.timeout) hmn
    omega

/-- What leaves the clock and the time for a wait alone takes no wait. -/
theorem of_clock_eq (htimeout : g₂.timeout = g₁.timeout) (hclock : g₂.clock = g₁.clock) :
    Within 0 g₁ g₂ where
  timeout := htimeout
  clock := by
    rw [hclock]
    exact Nat.le_add_right _ _

end Within

variable {g : Dialogue}

/-! ## Waits -/

/-- Waiting does not change how long output is waited for. -/
theorem kept_timeout (timeout : Nat) : Kept fun g => g.timeout = timeout where
  listen {g} slice h := by
    unfold listen
    simp only
    split <;> exact h
  take htake h := by
    obtain ⟨rest, -, rfl⟩ := take?_eq_some_iff.mp htake
    exact h

theorem within_expectMatch (g : Dialogue) (p : Pattern) : Within 1 g (g.expectMatch p).2 where
  timeout := (kept_timeout g.timeout).expectMatch p rfl
  clock := by
    have hwait : (g.expect p).2.clock < g.clock + g.timeout + Session.idlePause :=
      expectWithin_clock_lt (Prod.ext rfl rfl)
    have hend : (g.expectMatch p).2 = (g.expect p).2 := by
      unfold expectMatch
      split <;> simp only [*]
    rw [hend, longestWait, Session.idlePause, Nat.one_mul]
    rw [Session.idlePause] at hwait
    omega

theorem within_expectPrompt (g : Dialogue) : Within 1 g g.expectPrompt.2 := by
  unfold expectPrompt
  split
  · exact (Within.of_clock_eq rfl rfl).mono (Nat.zero_le 1)
  · rename_i p _
    have hwait := g.within_expectMatch p
    split
    · rename_i m g' heq
      rw [heq] at hwait
      exact ⟨hwait.timeout, hwait.clock⟩
    · rename_i f g' heq
      rwa [heq] at hwait

/-! ## Steps -/

theorem within_sendLine (g : Dialogue) (text : String) : Within 0 g (g.sendLine text).2 :=
  .of_clock_eq rfl (congrArg Surroundings.clock (Session.write_around ..))

/-- A step takes one wait. -/
theorem within_ask (g : Dialogue) (step : Step) (p? : Option Pattern) :
    Within 1 g (g.ask step p?).2 := by
  have hsent := g.within_sendLine step.send
  unfold ask
  split
  · rename_i f g' heq
    rw [heq] at hsent
    exact hsent.mono (Nat.zero_le 1)
  · rename_i g' heq
    rw [heq] at hsent
    split
    · exact hsent.trans (within_expectMatch g' _)
    · exact hsent.trans (within_expectPrompt g')

theorem within_runSteps (steps : List (Step × Option Pattern)) (g : Dialogue) :
    Within steps.length g (runSteps steps g).2 := by
  -- By the steps: each takes one wait, and a failure ends them.
  induction steps generalizing g with
  | nil => exact .of_clock_eq rfl rfl
  | cons entry rest ih =>
    have hask := g.within_ask entry.1 entry.2
    rw [List.length_cons, Nat.add_comm]
    unfold runSteps
    simp only
    split
    · rename_i m g' heq
      rw [heq] at hask
      exact hask.trans (ih g')
    · -- The steps that are skipped take no time.
      rename_i f g' heq
      rw [heq] at hask
      exact hask.mono (Nat.le_add_right _ _)

/-- A scenario takes a wait for the first prompt, and one for each step. -/
theorem within_runScenario (g : Dialogue) (s : Scenario) :
    Within (s.steps.length + 1) g (g.runScenario s).2 := by
  have hprompt := g.within_expectPrompt
  rw [runScenario_eq]
  split
  · exact (Within.of_clock_eq rfl rfl).mono (Nat.zero_le _)
  · rename_i entries hentries
    have hlength : s.steps.length = entries.length := by
      rw [← withPatterns_steps hentries, List.length_map]
    -- The wait for the first prompt comes in front of the steps.
    rw [hlength, Nat.add_comm]
    split
    · rename_i f g' heq
      rw [heq] at hprompt
      exact hprompt.mono (Nat.le_add_right _ _)
    · rename_i m g' heq
      rw [heq] at hprompt
      exact hprompt.trans (within_runSteps entries g')

end HistoryAudit.Dialogue
