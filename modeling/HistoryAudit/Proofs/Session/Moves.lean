/-
  HistoryAudit.Proofs.Session.Moves

  What a read does, move by move: it calls the reader, and it lets time pass. Every
  pause is right behind a call that found nothing, before the first byte and before
  the deadline (`Paced`), and no more calls are made than the device has something
  to give to and the pauses ask for. The call at which the read ends decides what
  it brings (`read_decided_by_calls`).
-/
import HistoryAudit.Proofs.Session.Calls

namespace HistoryAudit

namespace Session

open Device (Call Move Moves Read callsOf pausesOf given)

/-! ## What is true of every read under way -/

/-- Every pause is a short one, right behind a call that found nothing before the deadline, and no
bytes have come before it. -/
def Paced (deadline : Nat) (moves : List Move) : Prop :=
  ∀ before duration behind, moves = before ++ .pause duration :: behind →
    duration = idlePause ∧ given (callsOf before) = [] ∧
      ∃ earlier time, before = earlier ++ [.call ⟨time, .wouldBlock⟩] ∧ time < deadline

/-- A list with one more item at the end is split at this item, or before it. -/
theorem concat_eq_append_cons {α : Type} {l before behind : List α} {x y : α}
    (h : l ++ [x] = before ++ y :: behind) :
    (l = before ∧ x = y ∧ behind = []) ∨ ∃ front, l = before ++ y :: front := by
  rcases List.eq_nil_or_concat behind with rfl | ⟨front, z, rfl⟩
  · obtain ⟨hbefore, hlast⟩ := List.append_inj' h rfl
    exact .inl ⟨hbefore, List.singleton_inj.mp hlast, rfl⟩
  · rw [List.concat_eq_append, ← List.cons_append, ← List.append_assoc] at h
    exact .inr ⟨front, (List.append_inj' h rfl).1⟩

namespace Paced

variable {deadline : Nat} {moves : List Move}

theorem call (h : Paced deadline moves) (c : Call) : Paced deadline (moves ++ [.call c]) := by
  intro before duration behind heq
  rcases concat_eq_append_cons heq with ⟨-, hcall, -⟩ | ⟨front, hmoves⟩
  · cases hcall
  · exact h before duration front hmoves

theorem pause {time : Nat} (h : Paced deadline moves) (hnothing : given (callsOf moves) = [])
    (early : time < deadline) :
    Paced deadline (moves ++ [.call ⟨time, .wouldBlock⟩] ++ [.pause idlePause]) := by
  intro before duration behind heq
  rcases concat_eq_append_cons heq with ⟨rfl, hpause, -⟩ | ⟨front, hmoves⟩
  · cases hpause
    refine ⟨rfl, ?_, moves, time, rfl, early⟩
    simp [hnothing, Read.bytes]
  · exact h.call _ before duration front hmoves

end Paced

namespace Underway

variable {deadline : Nat} {d d' : Device} {s s' : Surroundings} {moves : List Move}
  {got : List UInt8}

theorem paced (h : Underway deadline d s moves got d' s') : Paced deadline moves := by
  induction h with
  | start =>
    intro before duration behind heq
    simp at heq
  | more before hr hmore ih => exact ih.call _
  | pause before hr early ih => exact ih.pause before.given_eq early

/-- Time passes in the pauses only. -/
theorem clock (h : Underway deadline d s moves got d' s') :
    s'.clock = s.clock + idlePause * (pausesOf moves).length := by
  induction h with
  | start => rfl
  | more before hr hmore ih => simp [Device.clock_of_read hr, ih]
  | @pause _ _ _ s₁ s₂ before hr early ih =>
    have hread : s₂.clock = s₁.clock := Device.clock_of_read hr
    have hpause : (s₂.pause idlePause).clock = s₂.clock + idlePause := rfl
    simp only [Device.pausesOf_append, Device.pausesOf_call, Device.pausesOf_pause,
      Device.pausesOf_nil, List.append_nil, List.length_append, List.length_singleton, Nat.mul_add]
    omega

/-- A call that calls for another one takes from the weight of the device, and every other one is
followed by a pause. -/
theorem length_calls (h : Underway deadline d s moves got d' s') :
    (callsOf moves).length + d'.weight ≤ d.weight + (pausesOf moves).length := by
  -- By the moves: a call that lets it go on makes the weight smaller, a pause counts as one.
  induction h with
  | start => exact Nat.le_of_eq (Nat.add_comm 0 d.weight)
  | @more _ _ d₁ d₂ s₁ _ _ before hr hmore ih =>
    have hweight := (d₁.read_weight s₁).2
    rw [hr] at hweight
    have hlt : d₂.weight < d₁.weight := hweight hmore
    simp only [Device.callsOf_append, Device.callsOf_call, Device.callsOf_nil,
      Device.pausesOf_append, Device.pausesOf_call, Device.pausesOf_nil, List.append_nil,
      List.length_append, List.length_singleton]
    omega
  | @pause _ d₁ d₂ s₁ _ before hr early ih =>
    have hweight := (d₁.read_weight s₁).1
    rw [hr] at hweight
    have hle : d₂.weight ≤ d₁.weight := hweight
    simp only [Device.callsOf_append, Device.callsOf_call, Device.callsOf_pause, Device.callsOf_nil,
      Device.pausesOf_append, Device.pausesOf_call, Device.pausesOf_pause, Device.pausesOf_nil,
      List.append_nil, List.length_append, List.length_singleton]
    omega

end Underway

/-! ## How a read ends -/

/-- What a read brings is what its calls gave; only if they gave nothing it tells how it ended. -/
structure Brings (deadline : Nat) (calls : List Call) (c : Chunk) : Prop where
  data : ∀ bytes, c = .data bytes ↔ given calls = bytes ∧ bytes ≠ []
  finished : c = .finished ↔ given calls = [] ∧ ∃ call ∈ calls, call.gave.Closed
  idle : c = .idle ↔
    given calls = [] ∧ ∃ call ∈ calls, call.gave = .wouldBlock ∧ deadline ≤ call.time

section Ends

variable {deadline time : Nat} {d d' : Device} {s s' : Surroundings} {moves : List Move}
  {got : List UInt8} {r : Read} {finished : Bool}

/-- Without bytes, a read that has not found the device closed has come to its deadline. -/
theorem EndsAt.late_iff (h : EndsAt deadline [] time r finished) :
    finished = false ↔ r = .wouldBlock ∧ deadline ≤ time := by
  cases h with
  | closed hclosed =>
    refine iff_of_false (by decide) ?_
    rintro ⟨rfl, -⟩
    rcases hclosed with hclosed | hclosed <;> cases hclosed
  | enough hover => exact iff_of_true rfl ⟨rfl, hover.resolve_left (fun hne => hne rfl)⟩

/-- A read that ends without a failure brings what its calls gave. -/
theorem Underway.brings (h : Underway deadline d s moves got d' s')
    (hends : EndsAt deadline got s'.clock r finished) :
    Brings deadline (callsOf (moves ++ [.call ⟨s'.clock, r⟩])) (chunkOf got finished) := by
  have hgiven : given (callsOf (moves ++ [.call ⟨s'.clock, r⟩])) = got := by
    simp [h.given_eq, hends.bytes_eq_nil]
  by_cases hnone : got = []
  · -- No bytes: the end and the lateness of the last call decide.
    subst hnone
    have hclosed := h.exists_call_iff (fun c => GoesOn.not_closed) ⟨s'.clock, r⟩
    have hlate := h.exists_call_iff (fun c => GoesOn.not_late) ⟨s'.clock, r⟩
    refine ⟨fun bytes => ?_, ?_, ?_⟩
    · rw [hgiven]
      refine iff_of_false ?_ (by rintro ⟨rfl, hne⟩; exact hne rfl)
      cases finished <;> simp [chunkOf]
    · rw [hgiven, hclosed, ← hends.finished_iff]
      cases finished <;> simp [chunkOf]
    · rw [hgiven, hlate, ← hends.late_iff]
      cases finished <;> simp [chunkOf]
  · -- Some bytes: they are returned, and how the gathering ended is not told.
    have hchunk : chunkOf got finished = .data got := if_neg (by simpa using hnone)
    rw [hchunk]
    refine ⟨fun bytes => ?_, ?_, ?_⟩
    · rw [hgiven, Chunk.data.injEq]
      exact ⟨fun hsame => ⟨hsame, hsame ▸ hnone⟩, And.left⟩
    · rw [hgiven]
      exact iff_of_false (by simp) (fun hboth => hnone hboth.1)
    · rw [hgiven]
      exact iff_of_false (by simp) (fun hboth => hnone hboth.1)

end Ends

/-- What a read of the session does, and what it brings by that. It ends after no more calls than the
device has something to give to, and one for every pause, and the last one; its pauses are short, begin
before the deadline, and come before the first byte. A call that fails makes it fail. Otherwise it
brings all that its calls gave; if this is nothing, it tells that the device was found closed, or that
nothing was there at the deadline. -/
theorem read_decided_by_calls (s : Session) (timeout : Nat) :
    let deadline := s.around.clock + timeout
    let r := s.read timeout
    ∃ moves, Moves s.device s.around moves r.2.device r.2.around ∧ Paced deadline moves ∧
      (callsOf moves).length ≤ s.device.weight + (pausesOf moves).length + 1 ∧
      r.2.around.clock = s.around.clock + idlePause * (pausesOf moves).length ∧
      r.2.around.clock < deadline + idlePause ∧
      (r.1 = .ok .idle → deadline ≤ r.2.around.clock) ∧
      ((∃ c ∈ callsOf moves, ∃ e, c.gave = .failure e ∧
          r.1 = .error (.ofSource "failed to read pty" e.message)) ∨
        (∀ c ∈ callsOf moves, ¬c.Failed) ∧
          ∃ chunk, r.1 = .ok chunk ∧ Brings deadline (callsOf moves) chunk) := by
  intro deadline r
  obtain ⟨moves, got, d, around, last, hunder, hread, hends⟩ := s.read_underway timeout
  have hclock : r.2.around.clock = around.clock := Device.clock_of_read hread
  -- The last call adds no pause.
  have hpauses : pausesOf (moves ++ [.call ⟨around.clock, last⟩]) = pausesOf moves := by simp
  have hlength : (callsOf (moves ++ [.call ⟨around.clock, last⟩])).length =
      (callsOf moves).length + 1 := by simp
  refine ⟨moves ++ [.call ⟨around.clock, last⟩], hunder.made.of_read hread, hunder.paced.call _,
    ?_, ?_, s.read_clock_lt timeout, s.read_idle timeout, ?_⟩
  · have hcalls := hunder.length_calls
    rw [hlength, hpauses]
    omega
  · rw [hclock, hpauses]
    exact hunder.clock
  · rcases hends with ⟨e, rfl, -, hfailure⟩ | ⟨finished, hends, -, hchunk⟩
    · exact .inl ⟨⟨around.clock, .failure e⟩, by simp, e, rfl, hfailure⟩
    · exact .inr ⟨hunder.not_failed hends, chunkOf got finished, hchunk, hunder.brings hends⟩

/-- A silent device is polled until the first moment behind the deadline. -/
example : ((⟨.blank {}, 0, .ofScript {}, {}⟩ : Session).read 12).2.around.clock = 15 := by
  decide +kernel

/-- Behind the first bytes no time passes, though they do not fit into one buffer. -/
example :
    let cues : List Device.Cue := [{ output := .interrupted },
      { output := .data (List.replicate 5000 97), due := 7 }, { output := .hungUp, due := 30 }]
    ((⟨.blank {}, 0, .ofScript { cues }, {}⟩ : Session).read 12).2.around.clock = 10 := by
  decide +kernel

end Session

end HistoryAudit
