/-
  HistoryAudit.Proofs.Session.Calls

  The calls of the reader, each with its time and with what it gave. A read of the
  session makes a chain of them, with pauses between: it goes on behind a call that
  gave something or was interrupted, and behind one that found nothing as long as
  nothing has come and the deadline has not (`Underway`). What is true of every read
  under way is true of it at its last call (`read_underway`). So what a read brings is
  what its calls gave, its last call finds nothing more or finds the device closed,
  and no time passes behind that call (`read_heard`). A pause begins before the
  deadline alone, so a read ends less than one pause behind it (`read_clock_lt`).
-/
import HistoryAudit.Proofs.Session.Stream
import HistoryAudit.Session.Lemmas

namespace HistoryAudit

namespace Device

/-! ## Calls -/

/-- A call of the reader. -/
structure Call where
  time : Nat
  gave : Read

/-- The call has failed. -/
def Call.Failed (c : Call) : Prop := ∃ e, c.gave = .failure e

/-- The device was found closed. -/
def Read.Closed (r : Read) : Prop := r = .finished ∨ r = .hungUp

/-- The bytes that calls gave, one call after the other. -/
def given (calls : List Call) : List UInt8 := calls.flatMap (·.gave.bytes)

@[simp] theorem given_nil : given [] = [] := rfl

@[simp] theorem given_append (calls more : List Call) :
    given (calls ++ more) = given calls ++ given more := List.flatMap_append

@[simp] theorem given_singleton (c : Call) : given [c] = c.gave.bytes := List.flatMap_singleton ..

/-- The calls that were made from one moment to another. In between time passes, and the shell is
written to. -/
inductive Calls (d : Device) (s : Surroundings) : List Call → Device → Surroundings → Prop where
  | none : Calls d s [] d s
  | read {calls : List Call} {d' : Device} {s' : Surroundings} (before : Calls d s calls d' s') :
      Calls d s (calls ++ [⟨s'.clock, (d'.read s').1⟩]) (d'.read s').2.1 (d'.read s').2.2
  | pause {calls : List Call} {d' : Device} {s' : Surroundings} (duration : Nat)
      (before : Calls d s calls d' s') : Calls d s calls d' (s'.pause duration)
  | write {calls : List Call} {d' : Device} {s' : Surroundings} (bytes : List UInt8)
      (before : Calls d s calls d' s') : Calls d s calls (d'.write bytes).2 s'
  | flush {calls : List Call} {d' : Device} {s' : Surroundings}
      (before : Calls d s calls d' s') : Calls d s calls d'.flush.2 s'

theorem Calls.trans {d d' d'' : Device} {s s' s'' : Surroundings} {calls more : List Call}
    (h : Calls d s calls d' s') (h' : Calls d' s' more d'' s'') :
    Calls d s (calls ++ more) d'' s'' := by
  induction h' with
  | none => rwa [List.append_nil]
  | read before ih =>
    rw [← List.append_assoc]
    exact .read ih
  | pause duration before ih => exact .pause duration ih
  | write bytes before ih => exact .write bytes ih
  | flush before ih => exact .flush ih

/-! ## Moves -/

/-- A move of somebody who reads. -/
inductive Move where
  | call (c : Call)
  | pause (duration : Nat)

/-- The calls among moves. -/
def callsOf (moves : List Move) : List Call :=
  moves.filterMap fun
    | .call c => some c
    | .pause _ => none

/-- How long the pauses among moves are. -/
def pausesOf (moves : List Move) : List Nat :=
  moves.filterMap fun
    | .call _ => none
    | .pause duration => some duration

@[simp] theorem callsOf_nil : callsOf [] = [] := rfl

@[simp] theorem callsOf_call (c : Call) (moves : List Move) :
    callsOf (.call c :: moves) = c :: callsOf moves := rfl

@[simp] theorem callsOf_pause (duration : Nat) (moves : List Move) :
    callsOf (.pause duration :: moves) = callsOf moves := rfl

@[simp] theorem pausesOf_nil : pausesOf [] = [] := rfl

@[simp] theorem pausesOf_call (c : Call) (moves : List Move) :
    pausesOf (.call c :: moves) = pausesOf moves := rfl

@[simp] theorem pausesOf_pause (duration : Nat) (moves : List Move) :
    pausesOf (.pause duration :: moves) = duration :: pausesOf moves := rfl

@[simp] theorem callsOf_append (moves more : List Move) :
    callsOf (moves ++ more) = callsOf moves ++ callsOf more := List.filterMap_append

@[simp] theorem pausesOf_append (moves more : List Move) :
    pausesOf (moves ++ more) = pausesOf moves ++ pausesOf more := List.filterMap_append

/-- The moves were made from one moment to another. -/
inductive Moves (d : Device) (s : Surroundings) : List Move → Device → Surroundings → Prop where
  | none : Moves d s [] d s
  | call {moves : List Move} {d' : Device} {s' : Surroundings} (before : Moves d s moves d' s') :
      Moves d s (moves ++ [.call ⟨s'.clock, (d'.read s').1⟩]) (d'.read s').2.1 (d'.read s').2.2
  | pause {moves : List Move} {d' : Device} {s' : Surroundings} (duration : Nat)
      (before : Moves d s moves d' s') : Moves d s (moves ++ [.pause duration]) d' (s'.pause duration)

theorem Moves.of_read {d d' d'' : Device} {s s' s'' : Surroundings} {moves : List Move} {r : Read}
    (before : Moves d s moves d' s') (h : d'.read s' = (r, d'', s'')) :
    Moves d s (moves ++ [.call ⟨s'.clock, r⟩]) d'' s'' := by
  have hcall := before.call
  rwa [h] at hcall

/-- The calls among the moves are calls that were made. -/
theorem Moves.calls {d d' : Device} {s s' : Surroundings} {moves : List Move}
    (h : Moves d s moves d' s') : Calls d s (callsOf moves) d' s' := by
  induction h with
  | none => exact .none
  | call before ih =>
    rw [callsOf_append]
    exact ih.read
  | pause duration before ih =>
    rw [callsOf_append, callsOf_pause, callsOf_nil, List.append_nil]
    exact .pause duration ih

/-! ## Calls and the stream -/

/-- Writing takes nothing from the stream. -/
theorem writeFrom_upcoming (fuel : Nat) (d : Device) (bytes : List UInt8) :
    (writeFrom fuel d bytes).2.upcoming = d.upcoming := by
  have honce (d : Device) (bytes : List UInt8) :
      (d.writeOnce bytes).2.upcoming = d.upcoming := by
    unfold writeOnce
    split <;> rfl
  fun_induction writeFrom fuel d bytes with
  | case1 | case2 => rfl
  | case3 fuel d bytes hne e d' h | case4 fuel d bytes hne d' h => rw [← honce d bytes, h]
  | case5 fuel d bytes hne n d' h ih => rw [ih, ← honce d bytes, h]

theorem flush_upcoming (d : Device) : d.flush.2.upcoming = d.upcoming := by
  unfold flush
  split <;> rfl

/-- The bytes that calls gave were the next ones of the stream. -/
theorem Calls.given_upcoming {d d' : Device} {s s' : Surroundings} {calls : List Call}
    (h : Calls d s calls d' s') : given calls ++ d'.upcoming = d.upcoming := by
  induction h with
  | none => rfl
  | @read calls d' s' before ih =>
    rw [given_append, given_singleton, List.append_assoc, d'.read_upcoming s', ih]
  | pause duration before ih => exact ih
  | @write calls d' s' bytes before ih =>
    rw [Device.write, writeFrom_upcoming, ih]
  | flush before ih => rw [flush_upcoming, ih]

end Device

namespace Session

open Device (Call Calls Move Moves Read callsOf pausesOf given)

/-! ## A read under way -/

/-- One step of gathering. -/
theorem gather_eq (deadline : Nat) (got : List UInt8) (d : Device) (s : Surroundings) :
    gather deadline got d s =
      match d.read s with
      | (.data bytes, d', s') => gather deadline (got ++ bytes) d' s'
      | (.interrupted, d', s') => gather deadline got d' s'
      | (.finished, d', s') => (.ok (got, true), d', s')
      | (.hungUp, d', s') => (.ok (got, true), d', s')
      | (.failure e, d', s') => (.error e, d', s')
      | (.wouldBlock, d', s') =>
        if got ≠ [] ∨ deadline ≤ s'.clock then (.ok (got, false), d', s')
        else gather deadline got d' (s'.pause idlePause) := by
  rw [gather]
  split <;> rename_i hr <;> rw [hr]

/-- A read that began in `d` and `s` is under way: what it has done so far, what it has got by that,
and what it stands before. -/
inductive Underway (deadline : Nat) (d : Device) (s : Surroundings) :
    List Move → List UInt8 → Device → Surroundings → Prop where
  | start (deadline d s) : Underway deadline d s [] [] d s
  | more {moves : List Move} {got : List UInt8} {d₁ d₂ : Device} {s₁ s₂ : Surroundings} {r : Read}
      (before : Underway deadline d s moves got d₁ s₁) (hr : d₁.read s₁ = (r, d₂, s₂))
      (hmore : r.more = true) :
      Underway deadline d s (moves ++ [.call ⟨s₁.clock, r⟩]) (got ++ r.bytes) d₂ s₂
  | pause {moves : List Move} {d₁ d₂ : Device} {s₁ s₂ : Surroundings}
      (before : Underway deadline d s moves [] d₁ s₁) (hr : d₁.read s₁ = (.wouldBlock, d₂, s₂))
      (early : s₁.clock < deadline) :
      Underway deadline d s (moves ++ [.call ⟨s₁.clock, .wouldBlock⟩] ++ [.pause idlePause]) [] d₂
        (s₂.pause idlePause)

/-- A read that has got these bytes ends at a call at this time, and has found the device closed or has
not. -/
inductive EndsAt (deadline : Nat) (got : List UInt8) (time : Nat) : Read → Bool → Prop where
  | closed {r : Read} (hclosed : r.Closed) : EndsAt deadline got time r true
  | enough (hover : got ≠ [] ∨ deadline ≤ time) : EndsAt deadline got time .wouldBlock false

namespace EndsAt

variable {deadline time : Nat} {got : List UInt8} {r : Read} {finished : Bool}

theorem bytes_eq_nil (h : EndsAt deadline got time r finished) : r.bytes = [] := by
  cases h with
  | closed hclosed => rcases hclosed with rfl | rfl <;> rfl
  | enough hover => rfl

theorem not_failed (h : EndsAt deadline got time r finished) (e : SystemError) :
    r ≠ .failure e := by
  rintro rfl
  cases h with
  | closed hclosed => rcases hclosed with hclosed | hclosed <;> cases hclosed

theorem finished_iff (h : EndsAt deadline got time r finished) : finished = true ↔ r.Closed := by
  cases h with
  | closed hclosed => exact iff_of_true rfl hclosed
  | enough hover => exact iff_of_false Bool.false_ne_true (by rintro (h | h) <;> cases h)

end EndsAt

/-- A gathering that is under way comes to a call at which it ends or fails. -/
theorem gather_underway {deadline : Nat} {d₀ d : Device} {s₀ s : Surroundings} {got : List UInt8}
    {moves : List Move} (h : Underway deadline d₀ s₀ moves got d s) :
    ∃ moves' got' d' s' r, Underway deadline d₀ s₀ moves' got' d' s' ∧
      d'.read s' = (r, (gather deadline got d s).2) ∧
      ((∃ e, r = .failure e ∧ (gather deadline got d s).1 = .error e) ∨
        ∃ finished, EndsAt deadline got' s'.clock r finished ∧
          (gather deadline got d s).1 = .ok (got', finished)) := by
  -- Every call that lets the gathering go on is one more move.
  fun_induction gather deadline got d s generalizing moves with
  | case1 got d s bytes d' s' hr ih => exact ih (h.more hr rfl)
  | case2 got d s d' s' hr ih =>
    have hsame : got ++ Read.interrupted.bytes = got := List.append_nil got
    exact ih (hsame ▸ h.more hr rfl)
  | case3 got d s d' s' hr =>
    exact ⟨moves, got, d, s, _, h, hr, .inr ⟨true, .closed (.inl rfl), rfl⟩⟩
  | case4 got d s d' s' hr =>
    exact ⟨moves, got, d, s, _, h, hr, .inr ⟨true, .closed (.inr rfl), rfl⟩⟩
  | case5 got d s e d' s' hr => exact ⟨moves, got, d, s, _, h, hr, .inl ⟨e, rfl, rfl⟩⟩
  | case6 got d s d' s' hr hover =>
    rw [Device.clock_of_read hr] at hover
    exact ⟨moves, got, d, s, _, h, hr, .inr ⟨false, .enough hover, rfl⟩⟩
  | case7 got d s d' s' hr hgoes ih =>
    rw [Device.clock_of_read hr, not_or, not_not, Nat.not_le] at hgoes
    obtain ⟨rfl, hearly⟩ := hgoes
    exact ih (h.pause hr hearly)

/-- A call behind which a read goes on: it asks for another one, or it found nothing before the
deadline. -/
def GoesOn (deadline : Nat) (c : Call) : Prop :=
  c.gave.more = true ∨ c.gave = .wouldBlock ∧ c.time < deadline

namespace GoesOn

variable {deadline : Nat} {c : Call}

theorem not_closed (h : GoesOn deadline c) : ¬c.gave.Closed := by
  rintro (hclosed | hclosed) <;> simp [GoesOn, hclosed, Read.more] at h

theorem not_late (h : GoesOn deadline c) : ¬(c.gave = .wouldBlock ∧ deadline ≤ c.time) := by
  rintro ⟨hblock, hlate⟩
  simp only [GoesOn, hblock, Read.more, Bool.false_eq_true, false_or, true_and] at h
  omega

theorem not_failed (h : GoesOn deadline c) : ¬c.Failed := by
  rintro ⟨e, he⟩
  simp [GoesOn, he, Read.more] at h

end GoesOn

namespace Underway

variable {deadline : Nat} {d d' : Device} {s s' : Surroundings} {moves : List Move}
  {got : List UInt8}

theorem made (h : Underway deadline d s moves got d' s') : Moves d s moves d' s' := by
  induction h with
  | start => exact .none
  | more before hr hmore ih => exact ih.of_read hr
  | pause before hr early ih => exact .pause idlePause (ih.of_read hr)

/-- What was got is what the calls gave. -/
theorem given_eq (h : Underway deadline d s moves got d' s') : given (callsOf moves) = got := by
  induction h with
  | start => rfl
  | more before hr hmore ih => simp [ih]
  | pause before hr early ih => simp [ih, Read.bytes]

theorem goesOn (h : Underway deadline d s moves got d' s') :
    ∀ c ∈ callsOf moves, GoesOn deadline c := by
  -- By the moves: a call that lets it go on gave bytes, was interrupted or came early.
  induction h with
  | start =>
    intro c hc
    cases hc
  | more before hr hmore ih =>
    intro c hc
    simp only [Device.callsOf_append, Device.callsOf_call, Device.callsOf_nil, List.mem_append,
      List.mem_singleton] at hc
    rcases hc with hc | rfl
    · exact ih c hc
    · exact .inl hmore
  | pause before hr early ih =>
    intro c hc
    simp only [Device.callsOf_append, Device.callsOf_call, Device.callsOf_pause, Device.callsOf_nil,
      List.append_nil, List.mem_append, List.mem_singleton] at hc
    rcases hc with hc | rfl
    · exact ih c hc
    · exact .inr ⟨rfl, early⟩

/-- The last pause began before the deadline. -/
theorem clock_lt (h : Underway deadline d s moves got d' s') (hstart : s.clock ≤ deadline) :
    s'.clock < deadline + idlePause := by
  have hpos : 0 < idlePause := by decide
  induction h with
  | start => omega
  | more before hr hmore ih => rwa [Device.clock_of_read hr]
  | @pause _ _ _ s₁ s₂ before hr early ih =>
    have hread : s₂.clock = s₁.clock := Device.clock_of_read hr
    have hpause : (s₂.pause idlePause).clock = s₂.clock + idlePause := rfl
    omega

/-- A gathering that is under way comes to what the whole of it comes to. -/
theorem gather_eq_start (h : Underway deadline d s moves got d' s') :
    gather deadline got d' s' = gather deadline [] d s := by
  -- Each move is one unfolding of the gathering.
  induction h with
  | start => rfl
  | @more _ got _ _ _ _ r before hr hmore ih =>
    rw [← ih, gather_eq deadline got, hr]
    cases r with
    | data bytes => rfl
    | interrupted =>
      have hnothing : got ++ Read.interrupted.bytes = got := List.append_nil got
      rw [hnothing]
    | finished | hungUp | failure | wouldBlock => cases hmore
  | @pause _ d₁ _ s₁ s₂ before hr early ih =>
    have hgoes : ¬([] ≠ ([] : List UInt8) ∨ deadline ≤ s₂.clock) := by
      rw [not_or, not_not, Nat.not_le, Device.clock_of_read hr]
      exact ⟨rfl, early⟩
    rw [← ih, gather_eq deadline [] d₁ s₁, hr]
    exact (if_neg hgoes).symm

/-- Of something that is true of no call behind which a read goes on, the last call decides. -/
theorem exists_call_iff {P : Call → Prop} (h : Underway deadline d s moves got d' s')
    (hP : ∀ c, GoesOn deadline c → ¬P c) (last : Call) :
    (∃ c ∈ callsOf (moves ++ [.call last]), P c) ↔ P last := by
  constructor
  · rintro ⟨c, hc, hpc⟩
    simp only [Device.callsOf_append, Device.callsOf_call, Device.callsOf_nil, List.mem_append,
      List.mem_singleton] at hc
    rcases hc with hc | rfl
    · exact absurd hpc (hP c (h.goesOn c hc))
    · exact hpc
  · intro hlast
    exact ⟨last, by simp, hlast⟩

/-- If a read ends without a failure, no call has failed. -/
theorem not_failed {r : Read} {finished : Bool} (h : Underway deadline d s moves got d' s')
    (hends : EndsAt deadline got s'.clock r finished) :
    ∀ c ∈ callsOf (moves ++ [.call ⟨s'.clock, r⟩]), ¬c.Failed := by
  intro c hc hfailed
  obtain ⟨e, he⟩ := (h.exists_call_iff (fun c => GoesOn.not_failed) _).mp ⟨c, hc, hfailed⟩
  exact hends.not_failed e he

end Underway

/-! ## Reads of the session -/

/-- The bytes that a read brings. -/
def Chunk.bytes : Chunk → List UInt8
  | .data bytes => bytes
  | .idle | .finished => []

/-- What is brought of bytes that were got, by a read that found the device closed or did not. -/
def chunkOf (got : List UInt8) (finished : Bool) : Chunk :=
  if got.isEmpty then if finished then .finished else .idle else .data got

theorem bytes_chunkOf (got : List UInt8) (finished : Bool) : (chunkOf got finished).bytes = got := by
  by_cases hnone : got = []
  · subst hnone
    cases finished <;> rfl
  · rw [chunkOf, if_neg (by simpa using hnone)]
    rfl

theorem chunkOf_ne_finished (got : List UInt8) : chunkOf got false ≠ .finished := by
  by_cases hnone : got = [] <;> simp [chunkOf, hnone]

theorem chunkOf_eq_finished_iff {got : List UInt8} {finished : Bool} :
    chunkOf got finished = .finished ↔ got = [] ∧ finished = true := by
  cases got <;> cases finished <;> simp [chunkOf]

/-- A read of the session is under way until its last call, which fails, or at which its gathering
ends. -/
theorem read_underway (s : Session) (timeout : Nat) :
    ∃ moves got d around last,
      Underway (s.around.clock + timeout) s.device s.around moves got d around ∧
      d.read around = (last, (s.read timeout).2.device, (s.read timeout).2.around) ∧
      ((∃ e, last = .failure e ∧ (s.read timeout).2.terminal = s.terminal ∧
          (s.read timeout).1 = .error (.ofSource "failed to read pty" e.message)) ∨
        ∃ finished, EndsAt (s.around.clock + timeout) got around.clock last finished ∧
          (s.read timeout).2.terminal = s.terminal.feed got ∧
          (s.read timeout).1 = .ok (chunkOf got finished)) := by
  obtain ⟨moves, got, d, around, last, hunder, hread, hends⟩ :=
    gather_underway (Underway.start (s.around.clock + timeout) s.device s.around)
  refine ⟨moves, got, d, around, last, hunder, ?_⟩
  rcases hgather : gather (s.around.clock + timeout) [] s.device s.around with ⟨result, d', around'⟩
  rw [hgather] at hread hends
  unfold read
  rw [hgather]
  -- The bytes are fed to the terminal only if no call has failed.
  rcases hends with ⟨e, hlast, hresult⟩ | ⟨finished, hends, hresult⟩
  all_goals
    simp only at hresult
    subst hresult
  · exact ⟨hread, .inl ⟨e, hlast, rfl, rfl⟩⟩
  · by_cases hnone : got = []
    · subst hnone
      exact ⟨hread, .inr ⟨finished, hends, (Screen.Terminal.feed_nil _).symm, rfl⟩⟩
    · refine ⟨?_, .inr ⟨finished, hends, ?_, ?_⟩⟩ <;> simp [chunkOf, hnone, hread]

/-- The calls of a read of the session that brings `c`: its bytes are what the calls gave, and the
terminal was fed with them. -/
structure Heard (s : Session) (c : Chunk) (s' : Session) (calls : List Call) : Prop where
  made : Calls s.device s.around calls s'.device s'.around
  sound : ∀ c ∈ calls, ¬c.Failed
  bytes : c.bytes = given calls
  terminal : s'.terminal = s.terminal.feed (given calls)
  last : ∃ r, calls.getLast? = some ⟨s'.around.clock, r⟩ ∧
    (r.Closed ∨ c ≠ .finished ∧ r = .wouldBlock)

/-- A read of the session that brings no bytes tells whether one of its calls found the device
closed. -/
theorem read_heard {s : Session} {timeout : Nat} {c : Chunk} (h : (s.read timeout).1 = .ok c) :
    ∃ calls, s.Heard c (s.read timeout).2 calls ∧
      (c.bytes = [] → ((∃ call ∈ calls, call.gave.Closed) ↔ c = .finished)) := by
  obtain ⟨moves, got, d, around, last, hunder, hread, hends⟩ := s.read_underway timeout
  rcases hends with ⟨e, -, -, hfailed⟩ | ⟨finished, hends, hterminal, hchunk⟩
  · rw [h] at hfailed
    cases hfailed
  rw [h] at hchunk
  cases hchunk
  -- The last call brings no bytes, so those before it gave them all.
  have hgiven : given (callsOf (moves ++ [.call ⟨around.clock, last⟩])) = got := by
    simp [hunder.given_eq, hends.bytes_eq_nil]
  have hclock : (s.read timeout).2.around.clock = around.clock := Device.clock_of_read hread
  refine ⟨_, ⟨(hunder.made.of_read hread).calls, ?_, ?_, ?_, last, ?_, ?_⟩, fun hnone => ?_⟩
  · exact hunder.not_failed hends
  · rw [hgiven, bytes_chunkOf]
  · rw [hgiven, hterminal]
  · simp [hclock]
  · cases hends with
    | closed hclosed => exact .inl hclosed
    | enough hover => exact .inr ⟨chunkOf_ne_finished got, rfl⟩
  · rw [bytes_chunkOf] at hnone
    subst hnone
    rw [hunder.exists_call_iff (fun c => GoesOn.not_closed), ← hends.finished_iff]
    cases finished <;> decide

/-- A read that does not fail takes what it brings from the front of the stream. -/
theorem read_upcoming (s : Session) (timeout : Nat) {c : Chunk}
    (h : (s.read timeout).1 = .ok c) :
    c.bytes ++ (s.read timeout).2.device.upcoming = s.device.upcoming := by
  obtain ⟨calls, hheard, -⟩ := read_heard h
  rw [hheard.bytes]
  exact hheard.made.given_upcoming

/-- A read of the session that fails has made a call that fails. -/
theorem read_failed {s : Session} {timeout : Nat} {f : Failure}
    (h : (s.read timeout).1 = .error f) :
    ∃ calls, Calls s.device s.around calls (s.read timeout).2.device (s.read timeout).2.around ∧
      ∃ c ∈ calls, c.Failed := by
  obtain ⟨moves, got, d, around, last, hunder, hread, hends⟩ := s.read_underway timeout
  rcases hends with ⟨e, rfl, -⟩ | ⟨finished, -, -, hchunk⟩
  · exact ⟨_, (hunder.made.of_read hread).calls, ⟨around.clock, .failure e⟩, by simp, e, rfl⟩
  · rw [h] at hchunk
    cases hchunk

theorem read_clock_lt (s : Session) (timeout : Nat) :
    (s.read timeout).2.around.clock < s.around.clock + timeout + idlePause := by
  obtain ⟨moves, got, d, around, last, hunder, hread, -⟩ := s.read_underway timeout
  rw [Device.clock_of_read hread]
  exact hunder.clock_lt (Nat.le_add_right s.around.clock timeout)

end Session

end HistoryAudit
