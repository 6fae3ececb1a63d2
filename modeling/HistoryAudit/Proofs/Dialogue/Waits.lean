/-
  HistoryAudit.Proofs.Dialogue.Waits

  What a wait does to the output. It listens until its pattern is found in the
  buffer, and takes the match in bytes (`takenUntil`), of which the outcome tells
  the text. What its calls gave is behind the buffer, less the match, and on the
  terminal (`waitUntil_waited`); no other call than one that fails makes it fail
  (`waitUntil_failed`).
-/
import HistoryAudit.Proofs.Dialogue.Stream

namespace HistoryAudit

namespace Dialogue

open Device (Call Calls given)

/-! ## Listening -/

section Listening

variable {g g' : Dialogue} {timeout : Nat}

/-- Listening makes the calls of one read; the shell is known to be gone once such a read has met
the end of the device, and brought nothing. -/
theorem listen_heard (h : g.listen timeout = (.ok (), g')) :
    ∃ c calls, (g.session.read timeout).1 = .ok c ∧ g'.session = (g.session.read timeout).2 ∧
      g.session.Heard c g'.session calls ∧ g'.buffer = g.buffer ++ given calls ∧
        (g'.ended = true ↔ g.ended = true ∨ c = .finished) ∧
          (c.bytes = [] → ((∃ call ∈ calls, call.gave.Closed) ↔ c = .finished)) := by
  obtain ⟨c, hread, hbuffer, hsession, -⟩ := listen_ok h
  obtain ⟨calls, hcalls, hclosed⟩ := Session.read_heard hread
  rw [hcalls.bytes] at hbuffer
  rw [← hsession] at hcalls
  refine ⟨c, calls, hread, hsession, hcalls, hbuffer, ?_, hclosed⟩
  unfold listen at h
  simp only [hread] at h
  cases c <;> cases h <;> simp

theorem listen_failed {f : Failure} (h : g.listen timeout = (.error f, g')) :
    ∃ calls, Calls g.session.device g.session.around calls g'.session.device g'.session.around ∧
      ∃ c ∈ calls, c.Failed := by
  unfold listen at h
  simp only at h
  split at h
  · rename_i f₁ hread
    cases h
    exact Session.read_failed hread
  · cases h
  · cases h
  · cases h

theorem listen_clock_lt {r : Except Failure Unit} (h : g.listen timeout = (r, g')) :
    g'.clock < g.clock + timeout + Session.idlePause := by
  have hread := g.session.read_clock_lt timeout
  unfold listen at h
  simp only at h
  split at h <;> cases h <;> exact hread

end Listening

/-! ## What a wait takes -/

/-- The match of an outcome, if there is one. -/
def Outcome.match? : Outcome → Option Match
  | .matched m => some m
  | .timedOut .. | .exited _ => none

/-- The match that a wait takes from the output, in bytes. -/
def takenUntil (deadline : Nat) (p : Pattern) (g : Dialogue) : Option Taken :=
  match g.take? p with
  | some (t, _) => some t
  | none =>
    if _he : g.ended = true then none
    else if _hd : deadline ≤ g.clock then none
    else
      match _h : g.listen (min (deadline - g.clock) readSlice) with
      | (.error _, _) => none
      | (.ok (), g') => takenUntil deadline p g'
termination_by g.patience deadline
decreasing_by
  exact listen_patience (by simpa using _he) (by omega) _h

section TakenUntil

variable {deadline : Nat} {p : Pattern} {g : Dialogue}

theorem takenUntil_of_take {t : Taken} {g' : Dialogue} (h : g.take? p = some (t, g')) :
    takenUntil deadline p g = some t := by
  rw [takenUntil, h]

/-- Nothing is taken if there is nothing to wait for. -/
theorem takenUntil_eq_none (htake : g.take? p = none)
    (hover : g.ended = true ∨ deadline ≤ g.clock) : takenUntil deadline p g = none := by
  rw [takenUntil, htake]
  by_cases he : g.ended = true
  · exact dif_pos he
  · exact (dif_neg he).trans (dif_pos (hover.resolve_left he))

theorem takenUntil_of_listen {r : Except Failure Unit} {g' : Dialogue} (htake : g.take? p = none)
    (he : ¬g.ended = true) (hd : ¬deadline ≤ g.clock)
    (hl : g.listen (min (deadline - g.clock) readSlice) = (r, g')) :
    takenUntil deadline p g = if r.isOk then takenUntil deadline p g' else none := by
  rw [takenUntil, htake]
  simp only [dif_neg he, dif_neg hd]
  split
  · rename_i hl'
    rw [hl] at hl'
    cases hl'
    rfl
  · rename_i hl'
    rw [hl] at hl'
    cases hl'
    rfl

end TakenUntil

/-! ## Waiting -/

/-- A wait that has not failed: the calls that it made, and what became of the bytes. -/
structure Waited (p : Pattern) (g : Dialogue) (taken? : Option Taken) (calls : List Call)
    (g' : Dialogue) : Prop where
  made : Calls g.session.device g.session.around calls g'.session.device g'.session.around
  sound : ∀ c ∈ calls, ¬c.Failed
  terminal : g'.session.terminal = g.session.terminal.feed (given calls)
  /-- What is taken is split off from all that has arrived. -/
  taken : ∀ t, taken? = some t → p.split? (g.buffer ++ given calls) = some (t, g'.buffer)
  left : taken? = none → g'.buffer = g.buffer ++ given calls ∧ p.find? g'.buffer = none
  /-- No time passes behind the last call. -/
  last : (calls = [] ∧ g'.clock = g.clock) ∨
    ∃ r, calls.getLast? = some ⟨g'.clock, r⟩ ∧ (r.Closed ∨ r = .wouldBlock)

section Waited

variable {p : Pattern} {g g₁ g' : Dialogue} {taken? : Option Taken} {calls : List Call}

/-- The match was in the buffer. -/
theorem Waited.of_take {t : Taken} (h : g.take? p = some (t, g')) :
    Waited p g (some t) [] g' := by
  obtain ⟨rest, hsplit, rfl⟩ := take?_eq_some_iff.mp h
  refine ⟨.none, List.forall_mem_nil _, (Screen.Terminal.feed_nil _).symm, fun t' ht => ?_, nofun,
    .inl ⟨rfl, rfl⟩⟩
  cases ht
  rw [Device.given_nil, List.append_nil]
  exact hsplit

/-- The wait is over, and no match is in the buffer. -/
theorem Waited.of_none (h : g.take? p = none) : Waited p g none [] g where
  made := .none
  sound := List.forall_mem_nil _
  terminal := (Screen.Terminal.feed_nil _).symm
  taken := nofun
  left _ := ⟨(List.append_nil _).symm, take?_eq_none_iff.mp h⟩
  last := .inl ⟨rfl, rfl⟩

/-- The wait goes on behind a read. -/
theorem Waited.of_listen {timeout : Nat} (hl : g.listen timeout = (.ok (), g₁))
    (h : Waited p g₁ taken? calls g') : ∃ heard, Waited p g taken? (heard ++ calls) g' := by
  obtain ⟨chunk, heard, -, -, hheard, hbuffer, -⟩ := listen_heard hl
  -- What the round heard stands at the end of the buffer of the rest.
  have hbytes : g₁.buffer ++ given calls = g.buffer ++ given (heard ++ calls) := by
    rw [hbuffer, Device.given_append, List.append_assoc]
  refine ⟨heard, ⟨hheard.made.trans h.made, ?_, ?_, ?_, ?_, ?_⟩⟩
  · exact List.forall_mem_append.mpr ⟨hheard.sound, h.sound⟩
  · rw [h.terminal, hheard.terminal, Device.given_append, Screen.Terminal.feed_append]
  · rw [← hbytes]
    exact h.taken
  · rw [← hbytes]
    exact h.left
  · obtain ⟨r, hlast, hend⟩ := hheard.last
    rcases h.last with ⟨rfl, hclock⟩ | ⟨r', hlast', hend'⟩
    · -- The read was the last thing, so its last call is that of the wait.
      refine .inr ⟨r, ?_, hend.imp_right And.right⟩
      rw [List.append_nil, hclock]
      exact hlast
    · refine .inr ⟨r', ?_, hend'⟩
      rw [List.getLast?_append, hlast']
      rfl

end Waited

/-- A wait that does not fail takes the match in bytes that its outcome tells in text. -/
theorem waitUntil_waited {started deadline : Nat} {p : Pattern} {g g' : Dialogue}
    {outcome : Outcome} (h : waitUntil started deadline p g = (.ok outcome, g')) :
    outcome.match? = (takenUntil deadline p g).map Taken.toMatch ∧
      ∃ calls, Waited p g (takenUntil deadline p g) calls g' := by
  -- A match is taken in the first round whose buffer holds one.
  fun_induction waitUntil started deadline p g with
  | case1 g t g₁ htake =>
    cases h
    rw [takenUntil_of_take htake]
    exact ⟨rfl, [], .of_take htake⟩
  | case2 g htake he =>
    cases h
    rw [takenUntil_eq_none htake (.inl he)]
    exact ⟨rfl, [], .of_none htake⟩
  | case3 g htake he hd =>
    cases h
    rw [takenUntil_eq_none htake (.inr hd)]
    exact ⟨rfl, [], .of_none htake⟩
  | case4 => cases h
  | case5 g htake he hd g₁ hl ih =>
    obtain ⟨hmatch, calls, hwaited⟩ := ih h
    obtain ⟨heard, hheard⟩ := hwaited.of_listen hl
    rw [takenUntil_of_listen htake he hd hl]
    exact ⟨hmatch, _, hheard⟩

/-- A wait that fails has made a call that failed, and takes nothing. -/
theorem waitUntil_failed {started deadline : Nat} {p : Pattern} {g g' : Dialogue} {f : Failure}
    (h : waitUntil started deadline p g = (.error f, g')) :
    takenUntil deadline p g = none ∧
      ∃ calls, Calls g.session.device g.session.around calls g'.session.device g'.session.around ∧
        ∃ c ∈ calls, c.Failed := by
  fun_induction waitUntil started deadline p g with
  | case1 | case2 | case3 => cases h
  | case4 g htake he hd f₁ g₁ hl =>
    cases h
    rw [takenUntil_of_listen htake he hd hl]
    exact ⟨rfl, listen_failed hl⟩
  | case5 g htake he hd g₁ hl ih =>
    obtain ⟨hnone, calls, hmade, c, hc, hfailed⟩ := ih h
    obtain ⟨chunk, heard, -, -, hheard, -⟩ := listen_heard hl
    rw [takenUntil_of_listen htake he hd hl]
    exact ⟨hnone, _, hheard.made.trans hmade, c, List.mem_append_right _ hc, hfailed⟩

end Dialogue

end HistoryAudit
