/-
  HistoryAudit.Proofs.Dialogue.LostOutput

  What a read that fails loses. A read gathers bytes until a call finds nothing
  more, and keeps them apart until then; a call that fails drops them
  (`read_broken`). So a wait that fails has kept what its earlier reads brought,
  in the buffer and on the terminal, and has lost what came since, without a pause,
  right before the failure (`failed_wait_keeps_earlier_reads`). What is lost is
  gone from the stream: it is in no buffer and will not be read again.
-/
import HistoryAudit.Proofs.Dialogue.Conservation

namespace HistoryAudit

namespace Session

open Device (Call Calls Move callsOf given)

/-! ## Gathering that fails -/

/-- The calls of a gathering that fails. Those of `idle` found nothing; `late` begins with the first
bytes, and its calls follow each other at once, up to the one that fails. -/
structure Broken (d : Device) (s : Surroundings) (e : SystemError) (d' : Device)
    (s' : Surroundings) (idle late : List Call) (c : Call) : Prop where
  made : Calls d s (idle ++ late ++ [c]) d' s'
  sound : ∀ c ∈ idle ++ late, ¬c.Failed
  nothing : given idle = []
  seam : idle = [] ∨ ∃ c, idle.getLast? = some c ∧ c.gave = .wouldBlock
  busy : ∀ c ∈ late, c.gave.more = true
  failed : c.gave = .failure e

/-- The calls of a read under way, cut behind its last pause: nothing came before it, and every call
behind it calls for the next one. -/
theorem Underway.cut {deadline : Nat} {d d' : Device} {s s' : Surroundings} {moves : List Move}
    {got : List UInt8} (h : Underway deadline d s moves got d' s') :
    ∃ idle late, callsOf moves = idle ++ late ∧ given idle = [] ∧
      (idle = [] ∨ ∃ c, idle.getLast? = some c ∧ c.gave = .wouldBlock) ∧
      ∀ c ∈ late, c.gave.more = true := by
  induction h with
  | start => exact ⟨[], [], rfl, rfl, .inl rfl, List.forall_mem_nil _⟩
  | @more _ _ _ _ s₁ _ r before hr hmore ih =>
    obtain ⟨idle, late, hcalls, hnothing, hseam, hbusy⟩ := ih
    have hlast : ∀ c ∈ [(⟨s₁.clock, r⟩ : Call)], c.gave.more = true :=
      List.forall_mem_singleton.mpr hmore
    refine ⟨idle, late ++ [⟨s₁.clock, r⟩], ?_, hnothing, hseam,
      List.forall_mem_append.mpr ⟨hbusy, hlast⟩⟩
    rw [Device.callsOf_append, hcalls, List.append_assoc]
    rfl
  | @pause moves _ _ s₁ _ before hr early ih =>
    -- Whatever was late is idle now, since it gave nothing.
    refine ⟨callsOf moves ++ [⟨s₁.clock, .wouldBlock⟩], [], ?_, ?_,
      .inr ⟨⟨s₁.clock, .wouldBlock⟩, ?_, rfl⟩, List.forall_mem_nil _⟩
    · simp
    · simp [before.given_eq, Device.Read.bytes]
    · exact List.getLast?_concat

/-- A read of the session that fails leaves the terminal as it was. -/
theorem read_broken {s : Session} {timeout : Nat} {f : Failure}
    (h : (s.read timeout).1 = .error f) :
    (s.read timeout).2.terminal = s.terminal ∧
      ∃ e idle late c, f = .ofSource "failed to read pty" e.message ∧
        Broken s.device s.around e (s.read timeout).2.device (s.read timeout).2.around
          idle late c := by
  obtain ⟨moves, got, d, around, last, hunder, hread, hends⟩ := s.read_underway timeout
  rcases hends with ⟨e, rfl, hterminal, hfailure⟩ | ⟨finished, -, -, hchunk⟩
  · rw [h] at hfailure
    cases hfailure
    -- The reads before the failing one go on, the last of them with what was lost.
    obtain ⟨idle, late, hcalls, hnothing, hseam, hbusy⟩ := hunder.cut
    refine ⟨hterminal, e, idle, late, ⟨around.clock, .failure e⟩, rfl, ?_, ?_, hnothing, hseam, hbusy,
      rfl⟩
    · have hmade := (hunder.made.of_read hread).calls
      rwa [Device.callsOf_append, hcalls] at hmade
    · rw [← hcalls]
      exact fun c hc => (hunder.goesOn c hc).not_failed
  · rw [h] at hchunk
    cases hchunk

end Session

namespace Dialogue

open Device (Call Calls given)

/-! ## Waits that fail -/

/-- A wait that fails with `f`: the calls of its earlier reads, the calls of its last read that
brought bytes, and the call that failed. -/
structure CutOff (g : Dialogue) (f : Failure) (early late : List Call) (c : Call)
    (g' : Dialogue) : Prop where
  made : Calls g.session.device g.session.around (early ++ late ++ [c]) g'.session.device
    g'.session.around
  sound : ∀ c ∈ early ++ late, ¬c.Failed
  /-- What comes late comes behind a call that found nothing. -/
  seam : early = [] ∨ ∃ c, early.getLast? = some c ∧ (c.gave.Closed ∨ c.gave = .wouldBlock)
  busy : ∀ c ∈ late, c.gave.more = true
  failed : ∃ e, c.gave = .failure e ∧ f = .ofSource "failed to read pty" e.message
  kept : g'.buffer = g.buffer ++ given early
  fed : g'.session.terminal = g.session.terminal.feed (given early)

section Waiting

variable {g g₁ g' : Dialogue} {timeout : Nat} {f : Failure} {early late : List Call} {c : Call}

/-- The read fails that the wait begins with. -/
theorem CutOff.of_listen_failed (h : g.listen timeout = (.error f, g')) :
    ∃ early late c, CutOff g f early late c g' := by
  unfold listen at h
  simp only at h
  split at h
  · rename_i f₁ hread
    cases h
    obtain ⟨hterminal, e, idle, late, c, hf, hbroken⟩ := Session.read_broken hread
    refine ⟨idle, late, c, hbroken.made, hbroken.sound, ?_, hbroken.busy, ⟨e, hbroken.failed, hf⟩,
      ?_, ?_⟩
    · exact hbroken.seam.imp_right fun ⟨last, hlast, hblocked⟩ => ⟨last, hlast, .inr hblocked⟩
    · rw [hbroken.nothing, List.append_nil]
    · rw [hbroken.nothing, Screen.Terminal.feed_nil]
      exact hterminal
  · cases h
  · cases h
  · cases h

/-- The wait goes on behind a read that does not fail, and keeps what that brings. -/
theorem CutOff.of_listen (hl : g.listen timeout = (.ok (), g₁))
    (h : CutOff g₁ f early late c g') : ∃ heard, CutOff g f (heard ++ early) late c g' := by
  obtain ⟨chunk, heard, -, -, hheard, hbuffer, -⟩ := listen_heard hl
  refine ⟨heard, ?_, ?_, .inr ?_, h.busy, h.failed, ?_, ?_⟩
  · rw [List.append_assoc, List.append_assoc, ← List.append_assoc early]
    exact hheard.made.trans h.made
  · rw [List.append_assoc]
    exact List.forall_mem_append.mpr ⟨hheard.sound, h.sound⟩
  · rcases h.seam with rfl | ⟨last, hlast, hend⟩
    · obtain ⟨r, hlast, hend⟩ := hheard.last
      exact ⟨_, by rw [List.append_nil, hlast], hend.imp_right And.right⟩
    · exact ⟨last, by rw [List.getLast?_append, hlast]; rfl, hend⟩
  · rw [h.kept, hbuffer, Device.given_append, List.append_assoc]
  · rw [h.fed, hheard.terminal, Device.given_append, Screen.Terminal.feed_append]

/-- A wait that fails keeps what its earlier reads brought. -/
theorem waitUntil_cutOff {started deadline : Nat} {p : Pattern}
    (h : waitUntil started deadline p g = (.error f, g')) :
    ∃ early late c, CutOff g f early late c g' := by
  fun_induction waitUntil started deadline p g with
  | case1 | case2 | case3 => cases h
  | case4 g htake he hd f₁ g₁ hl =>
    cases h
    exact CutOff.of_listen_failed hl
  | case5 g htake he hd g₁ hl ih =>
    obtain ⟨early, late, c, hcut⟩ := ih h
    obtain ⟨heard, hcut'⟩ := hcut.of_listen hl
    exact ⟨_, late, c, hcut'⟩

/-- A match in the buffer is taken at once, however short the wait. -/
theorem expectWithin_of_find {p : Pattern} (h : (p.find? g.buffer).isSome = true) (timeout : Nat) :
    ∃ m, (g.expectWithin p timeout).1 = .ok (.matched m) := by
  have hsome : (g.take? p).isSome = true := by
    rw [take?, Option.isSome_map]
    exact h
  obtain ⟨⟨t, g'⟩, htake⟩ := Option.isSome_iff_exists.mp hsome
  rw [expectWithin, waitUntil_of_take htake]
  exact ⟨t.toMatch, rfl⟩

end Waiting

/-- A wait that ends with the failure of a read has kept, in the buffer and on the terminal, what its
reads had brought before that one, and a later wait finds it there. What the read itself had got,
from calls that followed each other at once up to the one that failed, is missing between the buffer
and the rest of the stream, which are as they were before the wait only if this was nothing. -/
theorem failed_wait_keeps_earlier_reads (g : Dialogue) (op : Operation)
    (hbreaks : op.breaks g = true) :
    ∃ f early late c, CutOff g f early late c (op.perform g).2 ∧
      (op.perform g).2.buffer ++ given late ++ (op.perform g).2.session.device.upcoming =
        g.buffer ++ g.session.device.upcoming ∧
      ((op.perform g).2.buffer = g.buffer ++ given (early ++ late ++ [c]) ↔ given late = []) ∧
        ∀ p, (p.find? (g.buffer ++ given early)).isSome = true → ∀ timeout,
          ∃ m, ((op.perform g).2.expectWithin p timeout).1 = .ok (.matched m) := by
  -- A wait that breaks is one that fails.
  obtain ⟨f, early, late, c, hcut⟩ : ∃ f early late c,
      CutOff g f early late c (op.perform g).2 := by
    unfold Operation.breaks at hbreaks
    split at hbreaks
    · cases hbreaks
    · rename_i p timeout hwait
      obtain ⟨-, n?, hperform⟩ := Operation.perform_of_wait hwait
      rcases hends : g.expectWithin p timeout with ⟨f | outcome, g'⟩
      · obtain ⟨early, late, c, hcut⟩ := waitUntil_cutOff hends
        rw [hends] at hperform
        rw [hperform]
        exact ⟨f, early, late, c, hcut.made, hcut.sound, hcut.seam, hcut.busy, hcut.failed,
          hcut.kept, hcut.fed⟩
      · rw [hends] at hbreaks
        cases hbreaks
  -- The call that fails gives no bytes.
  have hgiven : given (early ++ late ++ [c]) = given early ++ given late := by
    obtain ⟨e, hfailed, -⟩ := hcut.failed
    rw [Device.given_append, Device.given_append, Device.given_singleton, hfailed]
    exact List.append_nil _
  refine ⟨f, early, late, c, hcut, ?_, ?_, fun p hfind timeout => ?_⟩
  · rw [hcut.kept, ← hcut.made.given_upcoming, hgiven, List.append_assoc, List.append_assoc,
      List.append_assoc]
  · rw [hcut.kept, hgiven, ← List.append_assoc, List.self_eq_append_right]
  · rw [← hcut.kept] at hfind
    exact expectWithin_of_find hfind timeout

/-- A text and a failure behind a pause: the wait that meets the failure keeps the text, and the next
one finds it. -/
theorem failed_wait_keeps_hello :
    let g := ofCues [{ output := .data (Text.Utf8.encode "hello") }, { output := .idle },
      { output := .failure ⟨9⟩ }]
    let op := Operation.expectLiteral "absent"
    op.breaks g = true ∧ ∃ f early late c, CutOff g f early late c (op.perform g).2 ∧
      given early = Text.Utf8.encode "hello" ∧ given late = [] ∧
        ∃ m, ((op.perform g).2.expectWithin (.literal "hello") 0).1 = .ok (.matched m) := by
  intro g op
  have hbreaks : op.breaks g = true := by decide +kernel
  have hbuffer : (op.perform g).2.buffer = Text.Utf8.encode "hello" := by decide +kernel
  have hstream : g.buffer ++ g.session.device.upcoming = Text.Utf8.encode "hello" := by
    decide +kernel
  obtain ⟨f, early, late, c, hcut, haccount, -, hfound⟩ :=
    failed_wait_keeps_earlier_reads g op hbreaks
  have hearly : given early = Text.Utf8.encode "hello" := hcut.kept.symm.trans hbuffer
  have hlate : given late = [] := by
    rw [hbuffer, hstream, List.append_assoc] at haccount
    exact (List.append_eq_nil_iff.mp (List.append_right_eq_self.mp haccount)).1
  refine ⟨hbreaks, f, early, late, c, hcut, hearly, hlate, hfound _ ?_ 0⟩
  rw [hearly]
  decide +kernel

/-- The same text and the same failure without a pause: the calls of the wait gave the text, but it is
neither in the buffer nor on the screen, and the next wait does not find it. -/
theorem failed_wait_loses_hello :
    let g := ofCues [{ output := .data (Text.Utf8.encode "hello") }, { output := .failure ⟨9⟩ }]
    let op := Operation.expectLiteral "absent"
    let g' := (op.perform g).2
    op.breaks g = true ∧
      (∀ calls, Calls g.session.device g.session.around calls g'.session.device
        g'.session.around → given calls = Text.Utf8.encode "hello") ∧
      g'.buffer = [] ∧ g'.session.snapshot.nonEmptyLines = [] ∧
        (g'.expectLiteral "hello").1.isOk = false := by
  intro g op g'
  have hstream : g.session.device.upcoming = Text.Utf8.encode "hello" ∧
      g'.session.device.upcoming = [] := by decide +kernel
  refine ⟨by decide +kernel, fun calls hmade => ?_, by decide +kernel, by decide +kernel,
    by decide +kernel⟩
  -- All that was to come has been given, and the calls alone can have taken it.
  rw [← hstream.1, ← hmade.given_upcoming, hstream.2, List.append_nil]

end Dialogue

end HistoryAudit
