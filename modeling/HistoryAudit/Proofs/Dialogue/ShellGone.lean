/-
  HistoryAudit.Proofs.Dialogue.ShellGone

  Waits in which nothing more arrives. Whether they find the shell gone is decided
  by the device alone: a wait listens to it, and never asks whether the shell has
  ended (`expectWithin_onDevice`). So it ends at once if the device is closed, and
  runs out if the device stays open, also when the shell ended long ago
  (`silent_wait_decided_by_device`).
-/
import HistoryAudit.Proofs.Dialogue.Deadline
import HistoryAudit.Proofs.Session.Status

namespace HistoryAudit

namespace Dialogue

open Device (Call Calls given)
open Text.Utf8 (encode)

/-! ## Another device -/

/-- The dialogue on another device. -/
def onDevice (g : Dialogue) (d : Device) : Dialogue :=
  { g with session := { g.session with device := d } }

section OnDevice

variable {g : Dialogue} {d : Device}

theorem take?_onDevice (p : Pattern) :
    (g.onDevice d).take? p = (g.take? p).map fun (t, g') => (t, g'.onDevice d) := by
  rw [take?, take?, Option.map_map]
  rfl

theorem take?_onDevice_none {p : Pattern} (h : g.take? p = none) :
    (g.onDevice d).take? p = none := by
  rw [take?_onDevice, h]
  rfl

/-- Listening hears the same from a device that gives the same output. -/
theorem listen_onDevice (h : g.session.device.SameOutput d) (timeout : Nat) :
    ∃ d', (g.listen timeout).2.session.device.SameOutput d' ∧
      (g.onDevice d).listen timeout =
        ((g.listen timeout).1, (g.listen timeout).2.onDevice d') := by
  obtain ⟨d', hsame, hread⟩ := Session.read_withDevice h timeout
  have hread' : (g.onDevice d).session.read timeout = _ := hread
  rw [listen, listen, hread']
  rcases hr : g.session.read timeout with ⟨f | c, session⟩
  · rw [hr] at hsame
    exact ⟨d', hsame, rfl⟩
  · rw [hr] at hsame
    cases c with
    | data bytes | idle | finished => exact ⟨d', hsame, rfl⟩

/-- A wait ends in the same way on a device that gives the same output. -/
theorem waitUntil_onDevice (started deadline : Nat) (p : Pattern)
    (h : g.session.device.SameOutput d) :
    (waitUntil started deadline p (g.onDevice d)).1 = (waitUntil started deadline p g).1 := by
  -- The devices stay alike from one read to the next, and so do the rounds of the wait.
  fun_induction waitUntil started deadline p g generalizing d with
  | case1 g t g₁ htake =>
    have htake' : (g.onDevice d).take? p = some (t, g₁.onDevice d) := by
      rw [take?_onDevice, htake]
      rfl
    rw [waitUntil_of_take htake']
  | case2 g htake he =>
    have htake' := take?_onDevice_none (d := d) htake
    rw [waitUntil_of_ended htake' he]
    rfl
  | case3 g htake he hd =>
    have htake' := take?_onDevice_none (d := d) htake
    rw [waitUntil_of_late htake' he hd]
    rfl
  | case4 g htake he hd f g₁ hl =>
    have htake' := take?_onDevice_none (d := d) htake
    obtain ⟨d', -, hlisten⟩ := listen_onDevice h (min (deadline - g.clock) readSlice)
    rw [hl] at hlisten
    rw [waitUntil_of_listen htake' he hd hlisten]
  | case5 g htake he hd g₁ hl ih =>
    have htake' := take?_onDevice_none (d := d) htake
    obtain ⟨d', hsame, hlisten⟩ := listen_onDevice h (min (deadline - g.clock) readSlice)
    rw [hl] at hsame hlisten
    rw [waitUntil_of_listen htake' he hd hlisten]
    exact ih hsame

theorem expectWithin_onDevice (p : Pattern) (timeout : Nat) (h : g.session.device.SameOutput d) :
    ((g.onDevice d).expectWithin p timeout).1 = (g.expectWithin p timeout).1 :=
  waitUntil_onDevice g.clock (g.clock + timeout) p h

end OnDevice

/-! ## Waits in silence -/

/-- A wait has ended with this outcome and without a match, its calls being `calls`: it has found
the shell gone if this was known or a call found the device closed, and else its time has run
out. -/
inductive SilentOutcome (g : Dialogue) (calls : List Call) : Outcome → Prop where
  | gone (h : g.ended = true ∨ ∃ c ∈ calls, c.gave.Closed) :
      SilentOutcome g calls (.exited g.pending)
  | late (waited : Nat) (screen : Screen.Snapshot) (he : g.ended = false)
      (h : ∀ c ∈ calls, ¬c.gave.Closed) : SilentOutcome g calls (.timedOut waited g.pending screen)

section Silence

variable {p : Pattern} {g g' : Dialogue} {timeout : Nat}

/-- Listening in silence changes neither the buffer nor that nothing is to come; it finds the shell
gone iff one of its calls finds the device closed. -/
theorem listen_silent (hsilent : g.session.device.upcoming = [])
    (h : g.listen timeout = (.ok (), g')) :
    ∃ calls, Calls g.session.device g.session.around calls g'.session.device g'.session.around ∧
      (∀ c ∈ calls, ¬c.Failed) ∧ g'.buffer = g.buffer ∧ g'.session.device.upcoming = [] ∧
        (g'.ended = true ↔ g.ended = true ∨ ∃ c ∈ calls, c.gave.Closed) := by
  obtain ⟨c, calls, -, -, hheard, hbuffer, hended, hclosed⟩ := listen_heard h
  have hstream := hheard.made.given_upcoming
  rw [hsilent] at hstream
  obtain ⟨hgiven, hupcoming⟩ := List.append_eq_nil_iff.mp hstream
  rw [hgiven, List.append_nil] at hbuffer
  rw [← hclosed (hheard.bytes.trans hgiven)] at hended
  exact ⟨calls, hheard.made, hheard.sound, hbuffer, hupcoming, hended⟩

theorem pending_congr (h : g'.buffer = g.buffer) : g'.pending = g.pending := by
  rw [pending, pending, h]

/-- A round of listening in front of a silent wait. -/
theorem SilentOutcome.of_listen {heard calls : List Call} {outcome : Outcome}
    (hpending : g'.pending = g.pending)
    (hended : g'.ended = true ↔ g.ended = true ∨ ∃ c ∈ heard, c.gave.Closed)
    (h : SilentOutcome g' calls outcome) : SilentOutcome g (heard ++ calls) outcome := by
  cases h with
  | gone hgone =>
    rw [hpending]
    refine .gone ?_
    -- It was known before the round, met in it, or met behind it.
    rcases hgone with he | ⟨c, hc, hclosed⟩
    · exact (hended.mp he).imp_right fun ⟨c, hc, hclosed⟩ =>
        ⟨c, List.mem_append_left _ hc, hclosed⟩
    · exact .inr ⟨c, List.mem_append_right _ hc, hclosed⟩
  | late waited screen he hopen =>
    rw [hpending]
    -- Had the round met the end, the rest of the wait would know.
    have hnot : ¬(g.ended = true ∨ ∃ c ∈ heard, c.gave.Closed) := fun hgone => by
      rw [hended.mpr hgone] at he
      cases he
    obtain ⟨hg, hheard⟩ := not_or.mp hnot
    refine .late waited screen (Bool.eq_false_iff.mpr hg) (List.forall_mem_append.mpr ⟨?_, hopen⟩)
    exact fun c hc hclosed => hheard ⟨c, hc, hclosed⟩

theorem waitUntil_silent {started deadline : Nat} {outcome : Outcome}
    (hnone : p.find? g.buffer = none) (hsilent : g.session.device.upcoming = [])
    (h : waitUntil started deadline p g = (.ok outcome, g')) :
    ∃ calls, Calls g.session.device g.session.around calls g'.session.device g'.session.around ∧
      (∀ c ∈ calls, ¬c.Failed) ∧ SilentOutcome g calls outcome := by
  -- No bytes come, so the buffer and what is found in it stay the same in every round.
  fun_induction waitUntil started deadline p g with
  | case1 g t g₁ htake =>
    rw [take?_eq_none_iff.mpr hnone] at htake
    cases htake
  | case2 g htake he =>
    cases h
    exact ⟨[], .none, List.forall_mem_nil _, .gone (.inl he)⟩
  | case3 g htake he hd =>
    cases h
    exact ⟨[], .none, List.forall_mem_nil _,
      .late _ _ (Bool.eq_false_iff.mpr he) (List.forall_mem_nil _)⟩
  | case4 => cases h
  | case5 g htake he hd g₁ hl ih =>
    obtain ⟨heard, hmade, hsound, hbuffer, hupcoming, hended⟩ := listen_silent hsilent hl
    obtain ⟨calls, hmade', hsound', houtcome⟩ := ih (hbuffer ▸ hnone) hupcoming h
    exact ⟨heard ++ calls, hmade.trans hmade', List.forall_mem_append.mpr ⟨hsound, hsound'⟩,
      houtcome.of_listen (pending_congr hbuffer) hended⟩

/-- If the next read finds the device closed, then listening finds the shell gone at once. -/
theorem listen_closed (h : (g.session.device.read g.session.around).1.Closed) :
    ∃ g', g.listen timeout = (.ok (), g') ∧ g'.ended = true ∧ g'.buffer = g.buffer ∧
      g'.clock = g.clock := by
  have hclock := g.session.device.read_clock g.session.around
  rcases hr : g.session.device.read g.session.around with ⟨r, d, s⟩
  rw [hr] at h hclock
  have hgather : ∀ deadline, Session.gather deadline [] g.session.device g.session.around =
      (.ok ([], true), d, s) := by
    intro deadline
    rw [Session.gather_eq, hr]
    rcases h with rfl | rfl <;> rfl
  refine ⟨{ g with session := { g.session with device := d, around := s }, ended := true }, ?_, rfl,
    rfl, hclock⟩
  rw [listen, Session.read, hgather]
  rfl

/-- If the shell is known to be gone, or the next read finds the device closed and there is time for
it, then the wait ends at once. -/
theorem expectWithin_gone (hnone : p.find? g.buffer = none)
    (h : g.ended = true ∨ 0 < timeout ∧ (g.session.device.read g.session.around).1.Closed) :
    (g.expectWithin p timeout).1 = .ok (.exited g.pending) ∧
      (g.expectWithin p timeout).2.clock = g.clock := by
  have htake := take?_eq_none_iff.mpr hnone
  by_cases he : g.ended = true
  · rw [expectWithin, waitUntil_of_ended htake he]
    exact ⟨rfl, rfl⟩
  · obtain ⟨htime, hclosed⟩ := h.resolve_left he
    have hd : ¬g.clock + timeout ≤ g.clock := by omega
    obtain ⟨g', hl, he', hbuffer, hclock⟩ := listen_closed hclosed
    have htake' : g'.take? p = none := take?_eq_none_iff.mpr (hbuffer ▸ hnone)
    rw [expectWithin, waitUntil_of_listen htake he hd hl]
    simp only
    rw [waitUntil_of_ended htake' he', pending_congr hbuffer]
    exact ⟨rfl, hclock⟩

/-- If the shell is not known to be gone and the device stays open, then the wait runs out. -/
theorem expectWithin_open (timeout : Nat) (hnone : p.find? g.buffer = none)
    (hsilent : g.session.device.upcoming = []) (he : g.ended = false)
    (hopen : g.session.device.StaysOpen) :
    ∃ waited screen, (g.expectWithin p timeout).1 = .ok (.timedOut waited g.pending screen) ∧
      timeout ≤ waited ∧ waited < timeout + Session.idlePause := by
  rcases hr : g.expectWithin p timeout with ⟨f | outcome, g'⟩
  · -- An open device makes no read fail.
    obtain ⟨-, calls, hmade, c, hc, e, hfailed⟩ := waitUntil_failed hr
    exact absurd hfailed (((hopen.calls hmade).2 c hc).2.2 e)
  · obtain ⟨calls, hmade, -, houtcome⟩ := waitUntil_silent hnone hsilent hr
    cases houtcome with
    | gone hgone =>
      -- Nor does one of its calls meet the end.
      rcases hgone with hended | ⟨c, hc, hclosed⟩
      · rw [he] at hended
        cases hended
      · exact absurd hclosed ((hopen.calls hmade).2 c hc).not_closed
    | late waited screen =>
      obtain ⟨hdeadline, helapsed, -⟩ := waitUntil_timedOut hr
      have hlt := expectWithin_clock_lt hr
      exact ⟨waited, screen, rfl, by omega, by omega⟩

end Silence

/-- A wait without any time does not read at all, so it runs out if the shell is not known to be
gone. -/
theorem expectWithin_zero {p : Pattern} {g : Dialogue} (hnone : p.find? g.buffer = none)
    (he : g.ended = false) :
    (g.expectWithin p 0).1 = .ok (.timedOut 0 g.pending g.session.snapshot) := by
  have hover : g.clock + 0 ≤ g.clock := Nat.le_refl g.clock
  rw [expectWithin,
    waitUntil_of_late (take?_eq_none_iff.mpr hnone) (Bool.eq_false_iff.mp he) hover, Nat.sub_self]

/-- How a wait ends that nothing in the buffer and no output to come can match. It ends in the same
way whatever has become of the shell, and whatever will. It finds the shell gone iff this was known
or a read of the device finds it closed, and else its time runs out, unless a read fails. So it ends
at once on a device that is closed, if there is time to read at all, and runs out on one that stays
open. That the shell is gone is known from the waits before, iff a read of one of them met the end of
the device and brought nothing: an end that was met behind the last bytes is not known, and a wait
without any time runs out behind it. -/
theorem silent_wait_decided_by_device (p : Pattern) (g : Dialogue) (timeout : Nat)
    (hnone : p.find? g.buffer = none) (hsilent : g.session.device.upcoming = []) :
    let r := g.expectWithin p timeout
    (∀ d, g.session.device.SameOutput d → ((g.onDevice d).expectWithin p timeout).1 = r.1) ∧
    (∃ calls, Calls g.session.device g.session.around calls r.2.session.device r.2.session.around ∧
      given calls = [] ∧ (r.1.isOk = true ↔ ∀ c ∈ calls, ¬c.Failed) ∧
        ∀ outcome, r.1 = .ok outcome → SilentOutcome g calls outcome) ∧
    (g.ended = true ∨ 0 < timeout ∧ (g.session.device.read g.session.around).1.Closed →
      r.1 = .ok (.exited g.pending) ∧ r.2.clock = g.clock) ∧
    (g.ended = false → g.session.device.StaysOpen →
      ∃ waited screen, r.1 = .ok (.timedOut waited g.pending screen) ∧
        timeout ≤ waited ∧ waited < timeout + Session.idlePause) ∧
    (g.ended = false → timeout = 0 → r.1 = .ok (.timedOut 0 g.pending g.session.snapshot)) ∧
    ∀ (g₀ : Dialogue) (ops : List Operation), g₀.ended = false → g = g₀.after ops →
      (g.ended = true ↔
        ∃ before op behind, ops = before ++ op :: behind ∧ op.MeetsEnd (g₀.after before)) := by
  intro r
  -- A device that has no output to come gives none to any calls.
  have hgiven : ∀ {calls}, Calls g.session.device g.session.around calls r.2.session.device
      r.2.session.around → given calls = [] := fun hmade =>
    (List.append_eq_nil_iff.mp (hmade.given_upcoming.trans hsilent)).1
  refine ⟨fun d h => expectWithin_onDevice p timeout h, ?_, expectWithin_gone hnone,
    expectWithin_open timeout hnone hsilent, ?_, ?_⟩
  · rcases hr : r with ⟨f | outcome, g'⟩
    · obtain ⟨-, calls, hmade, c, hc, hfailed⟩ := waitUntil_failed hr
      exact ⟨calls, hmade, hgiven (hr ▸ hmade),
        iff_of_false nofun fun hsound => hsound c hc hfailed, nofun⟩
    · obtain ⟨calls, hmade, hsound, houtcome⟩ := waitUntil_silent hnone hsilent hr
      refine ⟨calls, hmade, hgiven (hr ▸ hmade), iff_of_true rfl hsound, fun outcome' hsame => ?_⟩
      cases hsame
      exact houtcome
  · rintro he rfl
    exact expectWithin_zero hnone he
  · rintro g₀ ops hbegun rfl
    rw [after_ended_iff]
    exact or_iff_right (Bool.eq_false_iff.mp hbegun)

/-- A dialogue with a shell that has said its last word and ended; then come these cues. -/
def afterGoodbye (cues : List Device.Cue) : Dialogue :=
  ((ofCues ({ output := .data (encode "bye"), exit? := some (.code 0) } :: cues)).expectLiteral
    "bye").2

/-- Behind its last word a shell has ended. On a device that stays open a wait runs out. On one that
is closed it ends at once, but without any time it runs out too: the read that brought the last word
met the end, and this is not known. -/
theorem silent_waits_after_goodbye :
    let staying := afterGoodbye []
    let closed := afterGoodbye [{ output := .hungUp }]
    let more : Pattern := .literal "more"
    (staying.session.device.ended? staying.clock = some (.code 0) ∧
        more.find? staying.buffer = none ∧ staying.session.device.upcoming = [] ∧
          ∃ waited screen, (staying.expectWithin more 40).1 = .ok (.timedOut waited "" screen) ∧
            40 ≤ waited ∧ waited < 45) ∧
      closed.session.device.ended? closed.clock = some (.code 0) ∧
        more.find? closed.buffer = none ∧ closed.session.device.upcoming = [] ∧
          (closed.expectWithin more 40).1 = .ok (.exited "") ∧
            (closed.expectWithin more 40).2.clock = 0 ∧
              ∃ screen, (closed.expectWithin more 0).1 = .ok (.timedOut 0 "" screen) := by
  intro staying closed more
  have hshell : staying.session.device.ended? staying.clock = some (.code 0) ∧
      closed.session.device.ended? closed.clock = some (.code 0) := by decide +kernel
  have hnone : more.find? staying.buffer = none ∧ more.find? closed.buffer = none := by
    decide +kernel
  have hsilent : staying.session.device.upcoming = [] ∧ closed.session.device.upcoming = [] := by
    decide +kernel
  have hpending : staying.pending = "" ∧ closed.pending = "" := by decide +kernel
  have hunknown : staying.ended = false ∧ closed.ended = false := by decide +kernel
  have hcues : staying.session.device.cues = [] := by decide +kernel
  -- The shell has ended, but no cue closes the device.
  have hopen : staying.session.device.StaysOpen := by
    rw [Device.StaysOpen, hcues]
    exact List.forall_mem_nil _
  have hclosed : (closed.session.device.read closed.session.around).1 = .hungUp := by
    decide +kernel
  have hclock : closed.clock = 0 := by decide +kernel
  obtain ⟨-, -, -, hlate, -⟩ := silent_wait_decided_by_device more staying 40 hnone.1 hsilent.1
  obtain ⟨-, -, hgone, -⟩ := silent_wait_decided_by_device more closed 40 hnone.2 hsilent.2
  obtain ⟨-, -, -, -, hzero, -⟩ := silent_wait_decided_by_device more closed 0 hnone.2 hsilent.2
  obtain ⟨hexited, hend⟩ := hgone (.inr ⟨by decide, .inr hclosed⟩)
  have htimedOut := hlate hunknown.1 hopen
  have hunread := hzero hunknown.2 rfl
  rw [hpending.1] at htimedOut
  rw [hpending.2] at hexited hunread
  exact ⟨⟨hshell.1, hnone.1, hsilent.1, htimedOut⟩, hshell.2, hnone.2, hsilent.2, hexited,
    hend.trans hclock, _, hunread⟩

/-- A wait may run out although the shell had ended before it began and nothing was left to read. -/
theorem silent_wait_outlasts_shell :
    ¬∀ (p : Pattern) (g : Dialogue) (timeout : Nat),
        g.session.device.ended? g.clock ≠ none → g.session.device.upcoming = [] →
          p.find? g.buffer = none → ∀ waited pending screen,
            (g.expectWithin p timeout).1 ≠ .ok (.timedOut waited pending screen) := by
  intro hall
  have hnone : (Pattern.literal "more").find? (afterGoodbye []).buffer = none := by decide +kernel
  have hsilent : (afterGoodbye []).session.device.upcoming = [] := by decide +kernel
  have hcues : (afterGoodbye []).session.device.cues = [] := by decide +kernel
  have hopen : (afterGoodbye []).session.device.StaysOpen := by
    rw [Device.StaysOpen, hcues]
    exact List.forall_mem_nil _
  obtain ⟨waited, screen, htimedOut, -⟩ :=
    expectWithin_open 40 hnone hsilent (by decide +kernel) hopen
  exact hall _ _ 40 (by decide +kernel) hsilent hnone waited _ screen htimedOut

end Dialogue

end HistoryAudit
