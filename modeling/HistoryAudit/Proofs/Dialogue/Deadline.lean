/-
  HistoryAudit.Proofs.Dialogue.Deadline

  When a wait ends, and how. It ends less than one pause behind its deadline
  (`waitUntil_clock_lt`), and with a match whenever one is in the buffer. It is
  over without a match only if a call of the reader at the deadline or later has
  found nothing more, or if the shell is gone: a read of this wait or of an
  earlier one has met the end of the device and brought nothing
  (`expectWithin_ends`).
-/
import HistoryAudit.Proofs.Dialogue.Conservation

namespace HistoryAudit

namespace Session

open Device (Call Calls given)

/-- A read comes to a call that finds the device closed, and no call before it has given a byte. -/
def FindsEnd (s : Session) (timeout : Nat) : Prop :=
  ∃ moves d around last, Underway (s.around.clock + timeout) s.device s.around moves [] d around ∧
    d.read around = (last, (s.read timeout).2.device, (s.read timeout).2.around) ∧ last.Closed

/-- A read tells that the shell is gone iff this is how it ends. An end that is met behind bytes
of the same read is not told. -/
theorem findsEnd_iff {s : Session} {timeout : Nat} :
    s.FindsEnd timeout ↔ (s.read timeout).1 = .ok .finished := by
  constructor
  · rintro ⟨moves, d, around, last, hunder, hread, hclosed⟩
    have hgather : gather (s.around.clock + timeout) [] s.device s.around =
        (.ok ([], true), (s.read timeout).2.device, (s.read timeout).2.around) := by
      -- No byte was read before the end, or the read would return the bytes.
      rw [← hunder.gather_eq_start, gather_eq, hread]
      rcases hclosed with rfl | rfl <;> rfl
    rw [read, hgather]
    rfl
  · intro h
    obtain ⟨moves, got, d, around, last, hunder, hread, hends⟩ := s.read_underway timeout
    rcases hends with ⟨e, -, -, hfailed⟩ | ⟨finished, hends, -, hchunk⟩
    · rw [h] at hfailed
      cases hfailed
    · rw [h, Except.ok.injEq, eq_comm, chunkOf_eq_finished_iff] at hchunk
      obtain ⟨rfl, hfinished⟩ := hchunk
      exact ⟨moves, d, around, last, hunder, hread, hends.finished_iff.mp hfinished⟩

end Session

namespace Dialogue

open Device (Call Calls given)

/-! ## The deadline -/

/-- A slice is cut at the deadline, so its read ends less than one pause behind it. -/
theorem slice_clock_lt {deadline : Nat} {g g' : Dialogue} {r : Except Failure Unit}
    (hd : ¬deadline ≤ g.clock) (hl : g.listen (min (deadline - g.clock) readSlice) = (r, g')) :
    g'.clock < deadline + Session.idlePause := by
  have hlisten := listen_clock_lt hl
  have hslice := Nat.min_le_left (deadline - g.clock) readSlice
  omega

/-- However a wait ends, it ends less than one pause behind its deadline. -/
theorem waitUntil_clock_lt (started deadline : Nat) (p : Pattern) (g : Dialogue)
    (h : g.clock < deadline + Session.idlePause) :
    (waitUntil started deadline p g).2.clock < deadline + Session.idlePause := by
  fun_induction waitUntil started deadline p g with
  | case1 g t g₁ htake =>
    obtain ⟨rest, -, rfl⟩ := take?_eq_some_iff.mp htake
    exact h
  | case2 | case3 => exact h
  | case4 g htake he hd f g₁ hl => exact slice_clock_lt hd hl
  | case5 g htake he hd g₁ hl ih => exact ih (slice_clock_lt hd hl)

theorem expectWithin_clock_lt {g g' : Dialogue} {p : Pattern} {timeout : Nat}
    {r : Except Failure Outcome} (h : g.expectWithin p timeout = (r, g')) :
    g'.clock < g.clock + timeout + Session.idlePause := by
  have hbegin : g.clock < g.clock + timeout + Session.idlePause := by
    simp only [Session.idlePause]
    omega
  have hend := waitUntil_clock_lt g.clock (g.clock + timeout) p g hbegin
  rw [expectWithin] at h
  rwa [h] at hend

/-! ## The end of the shell -/

/-- A wait comes to a read that meets the end of the device and brings nothing. -/
inductive MeetsEnd (deadline : Nat) (p : Pattern) : Dialogue → Prop where
  | now {g : Dialogue} (htake : g.take? p = none) (he : ¬g.ended = true) (hd : ¬deadline ≤ g.clock)
      (hend : g.session.FindsEnd (min (deadline - g.clock) readSlice)) : MeetsEnd deadline p g
  | later {g g' : Dialogue} (htake : g.take? p = none) (he : ¬g.ended = true)
      (hd : ¬deadline ≤ g.clock)
      (hl : g.listen (min (deadline - g.clock) readSlice) = (.ok (), g'))
      (hend : MeetsEnd deadline p g') : MeetsEnd deadline p g

/-- The operation is a wait that comes to such a read. -/
def Operation.MeetsEnd (g : Dialogue) (op : Operation) : Prop :=
  ∃ p timeout, op.wait? g = some (p, timeout) ∧ Dialogue.MeetsEnd (g.clock + timeout) p g

/-- A read that fails does not tell that the shell is gone. -/
theorem listen_ended_of_error {g g' : Dialogue} {timeout : Nat} {f : Failure}
    (h : g.listen timeout = (.error f, g')) : g'.ended = g.ended := by
  unfold listen at h
  simp only at h
  split at h <;> cases h
  rfl

/-- A read that tells that the shell is gone has met the end. -/
theorem findsEnd_of_listen {g g' : Dialogue} {timeout : Nat} (he : ¬g.ended = true)
    (h : g.listen timeout = (.ok (), g')) (hended : g'.ended = true) :
    g.session.FindsEnd timeout := by
  obtain ⟨c, calls, hread, -, -, -, hc, -⟩ := listen_heard h
  obtain rfl := (hc.mp hended).resolve_left he
  exact Session.findsEnd_iff.mpr hread

/-- A wait behind which the shell is known to be gone has met the end, unless this was known. -/
theorem meetsEnd_of_waitUntil {started deadline : Nat} {p : Pattern} {g : Dialogue}
    (he : ¬g.ended = true) (hended : (waitUntil started deadline p g).2.ended = true) :
    MeetsEnd deadline p g := by
  fun_induction waitUntil started deadline p g with
  | case1 g t g₁ htake =>
    obtain ⟨rest, -, rfl⟩ := take?_eq_some_iff.mp htake
    exact absurd hended he
  | case2 | case3 => exact absurd hended he
  | case4 g htake _ hd f g₁ hl => exact absurd (listen_ended_of_error hl ▸ hended) he
  | case5 g htake _ hd g₁ hl ih =>
    -- The end is met by this read, or the wait goes on without knowing of it.
    by_cases he₁ : g₁.ended = true
    · exact .now htake he hd (findsEnd_of_listen he hl he₁)
    · exact .later htake he hd hl (ih he₁ hended)

theorem meetsEnd_of_perform {g : Dialogue} {op : Operation} (he : ¬g.ended = true)
    (hended : (op.perform g).2.ended = true) : op.MeetsEnd g := by
  cases hwait : op.wait? g with
  | none =>
    obtain ⟨-, -, hsame, -⟩ := Operation.perform_of_no_wait hwait
    exact absurd (hsame ▸ hended) he
  | some wait =>
    obtain ⟨p, timeout⟩ := wait
    obtain ⟨-, n?, hperform⟩ := Operation.perform_of_wait hwait
    rw [hperform] at hended
    exact ⟨p, timeout, hwait, meetsEnd_of_waitUntil he hended⟩

/-- A read that meets the end tells that the shell is gone. -/
theorem listen_of_findsEnd {g : Dialogue} {timeout : Nat} (h : g.session.FindsEnd timeout) :
    ∃ g', g.listen timeout = (.ok (), g') ∧ g'.ended = true := by
  have hread := Session.findsEnd_iff.mp h
  refine ⟨{ g with session := (g.session.read timeout).2, ended := true }, ?_, rfl⟩
  unfold listen
  simp only [hread]

/-- A wait loses nothing of what is known: behind it the shell is still gone. -/
theorem waitUntil_ended {started deadline : Nat} {p : Pattern} {g : Dialogue}
    (he : g.ended = true) : (waitUntil started deadline p g).2.ended = true := by
  cases htake : g.take? p with
  | some taken =>
    obtain ⟨t, g₁⟩ := taken
    rw [waitUntil_of_take htake]
    obtain ⟨rest, -, rfl⟩ := take?_eq_some_iff.mp htake
    exact he
  | none =>
    rw [waitUntil_of_ended htake he]
    exact he

/-- Behind a wait that has met the end the shell is known to be gone. -/
theorem MeetsEnd.ended {started deadline : Nat} {p : Pattern} {g : Dialogue}
    (h : MeetsEnd deadline p g) : (waitUntil started deadline p g).2.ended = true := by
  induction h with
  | now htake he hd hend =>
    obtain ⟨g', hl, hended⟩ := listen_of_findsEnd hend
    rw [waitUntil_of_listen htake he hd hl]
    exact waitUntil_ended hended
  | later htake he hd hl hend ih =>
    rw [waitUntil_of_listen htake he hd hl]
    exact ih

/-- The shell is known to be gone behind an operation iff it was before it, or the operation has met
the end. -/
theorem perform_ended_iff (g : Dialogue) (op : Operation) :
    (op.perform g).2.ended = true ↔ g.ended = true ∨ op.MeetsEnd g := by
  constructor
  · intro hended
    by_cases he : g.ended = true
    · exact .inl he
    · exact .inr (meetsEnd_of_perform he hended)
  · intro h
    cases hwait : op.wait? g with
    | none =>
      -- Only a wait can meet the end.
      obtain ⟨-, -, hsame, -⟩ := Operation.perform_of_no_wait hwait
      rcases h with he | ⟨p, timeout, hwait', -⟩
      · rw [hsame]
        exact he
      · rw [hwait] at hwait'
        cases hwait'
    | some wait =>
      obtain ⟨p, timeout⟩ := wait
      obtain ⟨-, n?, hperform⟩ := Operation.perform_of_wait hwait
      rw [hperform]
      rcases h with he | ⟨p', timeout', hwait', hend⟩
      · exact waitUntil_ended he
      · rw [hwait] at hwait'
        cases hwait'
        exact hend.ended

/-- The shell is known to be gone behind operations iff it was before them, or one of them has met
the end. -/
theorem after_ended_iff (g : Dialogue) (ops : List Operation) :
    (g.after ops).ended = true ↔ g.ended = true ∨
      ∃ before op behind, ops = before ++ op :: behind ∧ op.MeetsEnd (g.after before) := by
  -- The end is met by the first operation or behind it.
  induction ops generalizing g with
  | nil =>
    refine (or_iff_left ?_).symm
    rintro ⟨before, op, behind, hops, -⟩
    cases before <;> cases hops
  | cons op ops ih =>
    have hstep : g.after (op :: ops) = (op.perform g).2.after ops := rfl
    rw [hstep, ih, perform_ended_iff, or_assoc]
    refine or_congr_right ⟨?_, ?_⟩
    · rintro (hend | ⟨before, op', behind, rfl, hend⟩)
      · exact ⟨[], op, ops, rfl, hend⟩
      · exact ⟨op :: before, op', behind, rfl, hend⟩
    · rintro ⟨before, op', behind, hops, hend⟩
      cases before with
      | nil =>
        cases hops
        exact .inl hend
      | cons first before =>
        cases hops
        exact .inr ⟨before, op', behind, rfl, hend⟩

/-! ## How a wait ends -/

/-- A wait whose time is over: it has taken the whole of its time, nothing in the buffer matches,
and no output that was there at the deadline has been left out. -/
structure RanOut (p : Pattern) (timeout : Nat) (g : Dialogue) (calls : List Call) (waited : Nat)
    (g' : Dialogue) : Prop where
  clock : g'.clock = g.clock + waited
  waited : timeout ≤ waited ∧ waited < timeout + Session.idlePause
  buffer : g'.buffer = g.buffer ++ given calls
  unmatched : p.find? g'.buffer = none
  ended : g'.ended = false
  last : 0 < timeout → ∃ last, calls.getLast? = some last ∧ g.clock + timeout ≤ last.time ∧
    (last.gave = .wouldBlock ∨ last.gave.Closed)

theorem waitUntil_timedOut {started deadline : Nat} {p : Pattern} {g g' : Dialogue} {waited : Nat}
    {pending : String} {screen : Screen.Snapshot}
    (h : waitUntil started deadline p g = (.ok (.timedOut waited pending screen), g')) :
    deadline ≤ g'.clock ∧ waited = g'.clock - started ∧ g'.ended = false := by
  fun_induction waitUntil started deadline p g with
  | case1 | case2 | case4 => cases h
  | case3 g htake he hd =>
    simp only [Prod.mk.injEq, Except.ok.injEq, Outcome.timedOut.injEq] at h
    obtain ⟨⟨rfl, -, -⟩, rfl⟩ := h
    exact ⟨hd, rfl, Bool.eq_false_iff.mpr he⟩
  | case5 g htake he hd g₁ hl ih => exact ih h

theorem waitUntil_exited {started deadline : Nat} {p : Pattern} {g g' : Dialogue}
    {pending : String} (h : waitUntil started deadline p g = (.ok (.exited pending), g')) :
    g'.ended = true := by
  fun_induction waitUntil started deadline p g with
  | case1 | case3 | case4 => cases h
  | case2 g htake he =>
    simp only [Prod.mk.injEq] at h
    exact h.2 ▸ he
  | case5 g htake he hd g₁ hl ih => exact ih h

/-- A wait that is over in its time has run out as it should. -/
theorem Waited.ranOut {p : Pattern} {timeout waited : Nat} {g g' : Dialogue} {calls : List Call}
    {pending : String} {screen : Screen.Snapshot} (hwaited : Waited p g none calls g')
    (h : g.expectWithin p timeout = (.ok (.timedOut waited pending screen), g')) :
    RanOut p timeout g calls waited g' := by
  obtain ⟨hdeadline, helapsed, hended⟩ := waitUntil_timedOut h
  obtain ⟨hbuffer, hnone⟩ := hwaited.left rfl
  have hlt := expectWithin_clock_lt h
  refine ⟨by omega, by omega, hbuffer, hnone, hended, fun hpos => ?_⟩
  rcases hwaited.last with ⟨-, hclock⟩ | ⟨r, hlast, hend⟩
  · -- Time has passed, so there were calls.
    omega
  · exact ⟨_, hlast, hdeadline, hend.symm⟩

/-- A wait that began in `g`, whose calls were `calls`, has ended with this outcome. -/
structure WaitEnded (p : Pattern) (timeout : Nat) (g : Dialogue) (calls : List Call)
    (outcome : Outcome) (g' : Dialogue) : Prop where
  /-- There is a match if there is one in all that has arrived. -/
  matched_iff : (∃ m, outcome = .matched m) ↔ p.find? (g.buffer ++ given calls) ≠ none
  matched : ∀ m, outcome = .matched m →
    ∃ t, m = t.toMatch ∧ p.split? (g.buffer ++ given calls) = some (t, g'.buffer)
  timedOut : ∀ waited pending screen, outcome = .timedOut waited pending screen →
    RanOut p timeout g calls waited g'
  exited : ∀ pending, outcome = .exited pending →
    g'.buffer = g.buffer ++ given calls ∧ p.find? g'.buffer = none ∧ g'.ended = true

theorem Waited.ended {p : Pattern} {timeout : Nat} {g g' : Dialogue} {calls : List Call}
    {outcome : Outcome} (hwaited : Waited p g (takenUntil (g.clock + timeout) p g) calls g')
    (h : g.expectWithin p timeout = (.ok outcome, g')) :
    WaitEnded p timeout g calls outcome g' := by
  have hmatch := (waitUntil_waited h).1
  cases outcome with
  | matched m =>
    -- The match was taken from the buffer, so the pattern was found there.
    obtain ⟨t, htaken, hm⟩ := Option.map_eq_some_iff.mp hmatch.symm
    have hsplit := hwaited.taken t htaken
    obtain ⟨e, hfind, -⟩ := Option.map_eq_some_iff.mp hsplit
    refine ⟨iff_of_true ⟨m, rfl⟩ (hfind ▸ nofun), fun m' hm' => ?_, nofun, nofun⟩
    cases hm'
    exact ⟨t, hm.symm, hsplit⟩
  | timedOut waited pending screen =>
    rw [Option.map_eq_none_iff.mp hmatch.symm] at hwaited
    -- Nothing was taken: the buffer still holds all that came.
    obtain ⟨hbuffer, hnone⟩ := hwaited.left rfl
    refine ⟨iff_of_false nofun (fun hfind => hfind (hbuffer ▸ hnone)), nofun, fun _ _ _ hsame => ?_,
      nofun⟩
    cases hsame
    exact hwaited.ranOut h
  | exited pending =>
    rw [Option.map_eq_none_iff.mp hmatch.symm] at hwaited
    obtain ⟨hbuffer, hnone⟩ := hwaited.left rfl
    exact ⟨iff_of_false nofun (fun hfind => hfind (hbuffer ▸ hnone)), nofun, nofun,
      fun _ _ => ⟨hbuffer, hnone, waitUntil_exited h⟩⟩

/-- How a wait ends, whatever was done before it in a dialogue that began with the shell not known
to be gone. It fails only if a call of the reader fails. -/
theorem expectWithin_ends (g₀ : Dialogue) (ops : List Operation) (p : Pattern) (timeout : Nat)
    (hbegun : g₀.ended = false) :
    let g := g₀.after ops
    let r := g.expectWithin p timeout
    r.2.clock < g.clock + timeout + Session.idlePause ∧
    (∃ calls, Calls g.session.device g.session.around calls r.2.session.device r.2.session.around ∧
      (r.1.isOk = true ↔ ∀ c ∈ calls, ¬c.Failed) ∧
        ∀ outcome, r.1 = .ok outcome → WaitEnded p timeout g calls outcome r.2) ∧
    ∀ pending, r.1 = .ok (.exited pending) →
      MeetsEnd (g.clock + timeout) p g ∨
        ∃ before op behind, ops = before ++ op :: behind ∧ op.MeetsEnd (g₀.after before) := by
  intro g r
  refine ⟨expectWithin_clock_lt (Prod.ext rfl rfl), ?_, fun pending hexited => ?_⟩
  · rcases hr : r with ⟨f | outcome, g'⟩
    · obtain ⟨-, calls, hmade, c, hc, hfailed⟩ := waitUntil_failed hr
      exact ⟨calls, hmade, iff_of_false nofun (fun hsound => hsound c hc hfailed), nofun⟩
    · obtain ⟨-, calls, hwaited⟩ := waitUntil_waited hr
      refine ⟨calls, hwaited.made, iff_of_true rfl hwaited.sound, fun outcome' hsame => ?_⟩
      cases hsame
      exact hwaited.ended hr
  · have hended : r.2.ended = true := waitUntil_exited (Prod.ext hexited rfl)
    -- It was this wait that met the end, unless the shell was known to be gone before it.
    by_cases he : g.ended = true
    · exact .inr (((after_ended_iff g₀ ops).mp he).resolve_left (Bool.eq_false_iff.mp hbegun))
    · exact .inl (meetsEnd_of_waitUntil he hended)

/-- One wait runs out at the first look behind its deadline. Another finds the shell gone, as one
before it has met the end of the device. -/
theorem expectWithin_ends_late_and_gone :
    let g := ofCues [{ output := .data [97, 98] }, { output := .hungUp, due := 40 }]
    let ops : List Operation := [.expectWithin (.literal "c") 100, .expectLiteral "a"]
    let late := g.expectWithin (.literal "c") 12
    let gone := (g.after ops).expectWithin (.literal "c") 1
    g.ended = false ∧ (∃ calls, RanOut (.literal "c") 12 g calls 15 late.2) ∧
      (∃ pending, gone.1 = .ok (.exited pending)) ∧ gone.2.buffer = [98] ∧
        ∃ before op behind, ops = before ++ op :: behind ∧ op.MeetsEnd (g.after before) := by
  intro g ops late gone
  have hlate : late.1.isOk = true ∧ late.1.toOption.bind Outcome.match? = none ∧
      late.2.ended = false ∧ late.2.clock = 15 := by decide +kernel
  have hgone : gone.1.isOk = true ∧ gone.1.toOption.bind Outcome.match? = none ∧
      (g.after ops).ended = true ∧ gone.2.ended = true ∧ gone.2.buffer = [98] := by
    decide +kernel
  obtain ⟨-, ⟨calls, -, -, hends⟩, -⟩ := expectWithin_ends g [] (.literal "c") 12 rfl
  obtain ⟨-, ⟨calls', -, -, hends'⟩, hmet⟩ := expectWithin_ends g ops (.literal "c") 1 rfl
  have hranOut : RanOut (.literal "c") 12 g calls 15 late.2 := by
    match hr : late.1 with
    | .error f => exact absurd hlate.1 (hr ▸ nofun)
    | .ok (.matched m) => exact absurd hlate.2.1 (hr ▸ nofun)
    | .ok (.exited pending) =>
      exact absurd ((hends _ hr).exited pending rfl).2.2 (Bool.eq_false_iff.mp hlate.2.2.1)
    | .ok (.timedOut waited pending screen) =>
      have hran : RanOut (.literal "c") 12 g calls waited late.2 := (hends _ hr).timedOut _ _ _ rfl
      have hclock : late.2.clock = 0 + waited := hran.clock
      obtain rfl : waited = 15 := by omega
      exact hran
  obtain ⟨pending, hexited⟩ : ∃ pending, gone.1 = .ok (.exited pending) := by
    match hr : gone.1 with
    | .error f => exact absurd hgone.1 (hr ▸ nofun)
    | .ok (.matched m) => exact absurd hgone.2.1 (hr ▸ nofun)
    | .ok (.timedOut waited pending screen) =>
      exact absurd hgone.2.2.2.1
        (Bool.eq_false_iff.mp ((hends' _ hr).timedOut _ _ _ rfl).ended)
    | .ok (.exited pending) => exact ⟨pending, rfl⟩
  refine ⟨rfl, ⟨calls, hranOut⟩, ⟨pending, hexited⟩, hgone.2.2.2.2, ?_⟩
  -- The last wait reads nothing, so it is one before it that has met the end.
  refine (hmet pending hexited).resolve_left fun hend => ?_
  cases hend with
  | now _ he | later _ he => exact he hgone.2.2.1

end Dialogue

end HistoryAudit
