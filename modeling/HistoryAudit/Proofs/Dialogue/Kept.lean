/-
  HistoryAudit.Proofs.Dialogue.Kept

  What listening and taking a match keep is kept by every wait for output,
  however the wait ends.
-/
import HistoryAudit.Dialogue.Basic

namespace HistoryAudit.Dialogue

/-- Listening keeps this of a dialogue, and so does taking a match from the buffer. -/
structure Kept (P : Dialogue → Prop) : Prop where
  listen : ∀ {g} (timeout : Nat), P g → P (g.listen timeout).2
  take : ∀ {g g' : Dialogue} {p t}, g.take? p = some (t, g') → P g → P g'

namespace Kept

variable {P : Dialogue → Prop} {g : Dialogue}

theorem waitUntil (hP : Kept P) (started deadline : Nat) (p : Pattern) (h : P g) :
    P (Dialogue.waitUntil started deadline p g).2 := by
  fun_induction Dialogue.waitUntil started deadline p g with
  | case1 g t g' htake => exact hP.take htake h
  -- The shell is gone, or there is no time left.
  | case2 | case3 => exact h
  | case4 g htake he hd f g' hl =>
    have hlisten := hP.listen (min (deadline - g.clock) readSlice) h
    rwa [hl] at hlisten
  | case5 g htake he hd g' hl ih =>
    have hlisten := hP.listen (min (deadline - g.clock) readSlice) h
    rw [hl] at hlisten
    exact ih hlisten

theorem expectMatch (hP : Kept P) (p : Pattern) (h : P g) : P (g.expectMatch p).2 := by
  have hwait : P (g.expect p).2 := hP.waitUntil g.clock (g.clock + g.timeout) p h
  unfold Dialogue.expectMatch
  split
  · rename_i outcome g' heq
    rwa [heq] at hwait
  · rename_i f g' heq
    rwa [heq] at hwait

theorem expectRegex (hP : Kept P) (source : String) (h : P g) : P (g.expectRegex source).2 := by
  unfold Dialogue.expectRegex
  split
  · exact h
  · exact hP.expectMatch _ h

end Kept

end HistoryAudit.Dialogue
