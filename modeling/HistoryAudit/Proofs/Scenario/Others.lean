/-
  HistoryAudit.Proofs.Scenario.Others

  A scenario leaves the files to others: from the start of the dialogue to the
  last step, whatever the shell does and however a step ends, only others change
  what the dialogue shares with them (`runScenario_others`).
-/
import HistoryAudit.Proofs.Dialogue.Kept
import HistoryAudit.Proofs.Dialogue.Stream
import HistoryAudit.Proofs.Session.Others
import HistoryAudit.Proofs.Scenario.Loop

namespace HistoryAudit.Dialogue

open Session (OnlyOthers)

variable {start : List Device.Cue × Surroundings} {g : Dialogue}

theorem kept_others (start : List Device.Cue × Surroundings) :
    Kept fun g => g.session.OnlyOthers start where
  listen {g} timeout h := by
    have hread := h.read timeout
    unfold listen
    simp only
    split <;> exact hread
  take htake h := by
    obtain ⟨rest, -, rfl⟩ := take?_eq_some_iff.mp htake
    exact h

/-- A dialogue begins with nothing changed. -/
theorem start_ok {c : Config} {parent : Config.Variables} {d d' : Device} {s : Surroundings}
    (h : Dialogue.start c parent d s = (.ok g, d')) : g.session.OnlyOthers (d.cues, s) := by
  unfold Dialogue.start at h
  simp only at h
  split at h
  · rename_i session d₁ hstart
    obtain ⟨hcues, haround⟩ := Session.start_ok hstart
    cases h
    unfold OnlyOthers
    rw [hcues, haround]
  · cases h

theorem start_error {c : Config} {parent : Config.Variables} {d d' : Device} {s : Surroundings}
    {f : Failure} (h : Dialogue.start c parent d s = (.error f, d')) : d'.cues = d.cues := by
  unfold Dialogue.start at h
  simp only at h
  split at h
  · cases h
  · rename_i f' d₁ hstart
    cases h
    exact Session.start_error hstart

theorem sendLine_others (h : g.session.OnlyOthers start) (text : String) :
    (g.sendLine text).2.session.OnlyOthers start := h.write _

theorem expectPrompt_others (h : g.session.OnlyOthers start) :
    g.expectPrompt.2.session.OnlyOthers start := by
  unfold expectPrompt
  split
  · exact h
  · rename_i p _
    have hwait := (kept_others start).expectMatch p h
    split
    · rename_i m g' heq
      rwa [heq] at hwait
    · rename_i f g' heq
      rwa [heq] at hwait

theorem ask_others (h : g.session.OnlyOthers start) (step : Step) (p? : Option Pattern) :
    (g.ask step p?).2.session.OnlyOthers start := by
  have hsent := sendLine_others h step.send
  unfold ask
  split
  · rename_i f g' heq
    rwa [heq] at hsent
  · rename_i g' heq
    rw [heq] at hsent
    split
    · exact (kept_others start).expectMatch _ hsent
    · exact expectPrompt_others hsent

theorem runSteps_others (steps : List (Step × Option Pattern)) (h : g.session.OnlyOthers start) :
    (runSteps steps g).2.session.OnlyOthers start := by
  induction steps generalizing g with
  | nil => exact h
  | cons step rest ih =>
    have hask := ask_others h step.1 step.2
    unfold runSteps
    simp only
    split
    · rename_i m g' heq
      rw [heq] at hask
      exact ih hask
    · rename_i f g' heq
      rwa [heq] at hask

/-- A scenario changes nothing that it shares with others. -/
theorem runScenario_others (scenario : Scenario) (h : g.session.OnlyOthers start) :
    (g.runScenario scenario).2.session.OnlyOthers start := by
  rw [runScenario_eq]
  split
  · exact h
  · rename_i steps _
    have hprompt := expectPrompt_others h
    split
    · rename_i f g' heq
      rwa [heq] at hprompt
    · rename_i m g' heq
      rw [heq] at hprompt
      exact runSteps_others steps hprompt

end HistoryAudit.Dialogue
