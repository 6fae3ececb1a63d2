/-
  HistoryAudit.Proofs.Session.Escalation

  How a shell that does not end is forced. The time at which it ends follows from
  the script and from all that it was sent (`Device.EndsAt`); what it is sent now
  ends it no earlier than now (`RunningUntil.sent`). So a wait that finds it running
  at the start and then sees its end sees it less than one pause late
  (`waitForExit_seen`), also where a signal was sent just before the wait.
  `terminate_escalates` says what is sent and when, what the answers mean, and how
  long it takes.
-/
import HistoryAudit.Proofs.Session.Duration

namespace HistoryAudit

/-! ## The end of a shell -/

namespace Device

variable {d d' : Device} {clock time : Nat} {exit : Exit}

/-- As things stand, the shell ends at `time`, and so. -/
def EndsAt (d : Device) (time : Nat) (exit : Exit) : Prop :=
  ∀ clock, d.ended? clock = if time ≤ clock then some exit else none

/-- The ends that lie before the shell, of which the first one counts. -/
def ends (d : Device) : List (Nat × Exit) :=
  d.script.ends?.toList ++ d.answers.filterMap Answer.end?

theorem earliest?_eq_none {l : List (Nat × Exit)} (h : earliest? l = none) : l = [] := by
  cases l with
  | nil => rfl
  | cons e rest =>
    rw [earliest?] at h
    cases hrest : earliest? rest with
    | none => simp [hrest] at h
    | some e' =>
      simp only [hrest] at h
      split at h <;> cases h

theorem earliest?_eq_some {l : List (Nat × Exit)} {e : Nat × Exit} (h : earliest? l = some e) :
    e ∈ l ∧ ∀ e' ∈ l, e.1 ≤ e'.1 := by
  induction l generalizing e with
  | nil => cases h
  | cons a rest ih =>
    rw [earliest?] at h
    -- The first one counts unless a later one is strictly earlier.
    cases hrest : earliest? rest with
    | none =>
      rw [hrest] at h
      obtain rfl := Option.some.inj h
      rw [earliest?_eq_none hrest]
      exact ⟨List.mem_cons_self, fun e' he' => List.mem_singleton.mp he' ▸ Nat.le_refl _⟩
    | some b =>
      obtain ⟨hmem, hleast⟩ := ih hrest
      simp only [hrest] at h
      split at h
      · rename_i hlt
        obtain rfl := Option.some.inj h
        exact ⟨List.mem_cons_of_mem _ hmem,
          List.forall_mem_cons.mpr ⟨Nat.le_of_lt hlt, hleast⟩⟩
      · rename_i hle
        obtain rfl := Option.some.inj h
        refine ⟨List.mem_cons_self, List.forall_mem_cons.mpr ⟨Nat.le_refl _, fun e' he' => ?_⟩⟩
        exact Nat.le_trans (Nat.le_of_not_lt hle) (hleast e' he')

/-- The shell has met no end, and none of those that lie before it comes before `clock`. -/
structure RunningUntil (d : Device) (clock : Nat) : Prop where
  unmet : d.exit? = none
  later : ∀ e ∈ d.ends, clock ≤ e.1

theorem ended?_of_tryWait {exit? : Option Exit} (h : d.tryWait clock = .ok exit?) :
    d.ended? clock = exit? := by
  rw [tryWait] at h
  split at h
  · cases h
  · exact Except.ok.inj h

/-- A shell that a look finds running has not ended by then. -/
theorem runningUntil_of_tryWait (h : d.tryWait clock = .ok none) : d.RunningUntil (clock + 1) := by
  have hnone := ended?_of_tryWait h
  rw [ended?, Option.or_eq_none_iff] at hnone
  refine ⟨hnone.1, fun e he => ?_⟩
  cases hupcoming : d.upcomingEnd? with
  | none =>
    have hempty : d.ends = [] := earliest?_eq_none hupcoming
    rw [hempty] at he
    cases he
  | some first =>
    -- The first of the ends to come is not due yet, so none is.
    have hearlier : first.1 ≤ e.1 := (earliest?_eq_some hupcoming).2 e he
    have hlate : ¬first.1 ≤ clock := by simpa [hupcoming, Option.filter] using hnone.2
    omega

/-- A shell that runs until `clock` and is seen to have ended has ended in between. -/
theorem RunningUntil.endsAt (h : d.RunningUntil time) (hseen : d.tryWait clock = .ok (some exit)) :
    ∃ e, d.EndsAt e exit ∧ time ≤ e ∧ e ≤ clock := by
  have hended := ended?_of_tryWait hseen
  rw [ended?, h.unmet, Option.none_or] at hended
  obtain ⟨first, hfirst, rfl⟩ := Option.map_eq_some_iff.mp hended
  obtain ⟨hupcoming, hle⟩ := Option.filter_eq_some_iff.mp hfirst
  refine ⟨first.1, fun u => ?_, h.later first (earliest?_eq_some hupcoming).1,
    of_decide_eq_true hle⟩
  rw [ended?, h.unmet, Option.none_or, hupcoming, Option.filter]
  by_cases hu : first.1 ≤ u <;> simp [hu]

/-- What is sent to a shell ends it no earlier than it is sent. -/
theorem RunningUntil.sent (h : d.RunningUntil clock) (hexit : d'.exit? = d.exit?)
    (hscript : d'.script = d.script)
    (hanswers : ∀ a ∈ d'.answers, a ∈ d.answers ∨ a.2 = clock) : d'.RunningUntil clock := by
  refine ⟨hexit.trans h.unmet, fun e he => ?_⟩
  rcases List.mem_append.mp he with hown | hanswer
  · rw [hscript] at hown
    exact h.later e (List.mem_append_left _ hown)
  · -- The answer to what is sent now takes effect later, if it ends the shell.
    obtain ⟨⟨answer, at_⟩, ha, hend⟩ := List.mem_filterMap.mp hanswer
    rcases hanswers _ ha with hold | rfl
    · exact h.later e (List.mem_append_right _ (List.mem_filterMap.mpr ⟨_, hold, hend⟩))
    · cases answer with
      | ends delay exit =>
        obtain rfl := Option.some.inj hend
        exact Nat.le_add_right _ _
      | ignored | lost | refused => cases hend

theorem RunningUntil.signalGroup (h : d.RunningUntil clock) (signal : Signal) :
    (d.signalGroup signal clock).2.RunningUntil clock := by
  refine h.sent rfl rfl fun a ha => ?_
  rcases List.mem_append.mp ha with hkilled | hsignals
  · exact .inl (List.mem_append_left _ hkilled)
  · rcases List.mem_cons.mp hsignals with rfl | hold
    · exact .inr rfl
    · exact .inl (List.mem_append_right _ hold)

theorem RunningUntil.killShell (h : d.RunningUntil clock) :
    (d.killShell clock).2.RunningUntil clock := by
  refine h.sent rfl rfl fun a ha => ?_
  rcases List.mem_append.mp ha with hkilled | hsignals
  · rcases List.mem_cons.mp hkilled with rfl | hold
    · exact .inr rfl
    · exact .inl (List.mem_append_left _ hold)
  · exact .inl (List.mem_append_right _ hsignals)

theorem RunningUntil.mono (h : d.RunningUntil time) (hle : clock ≤ time) : d.RunningUntil clock :=
  ⟨h.unmet, fun e he => Nat.le_trans hle (h.later e he)⟩

end Device

/-! ## Waits -/

namespace Session

variable {s s' : Session} {timeout grace : Nat} {r : Except Failure (Option Exit)} {exit : Exit}

/-- A wait sees what its last look sees, at the time of that look. -/
theorem waitForExit_look (h : s.waitForExit timeout = (r, s')) :
    r = ofLook (s'.device.tryWait s'.around.clock) := by
  obtain ⟨n, heq, -, -⟩ := waitForExit_looks s timeout
  obtain ⟨rfl, rfl⟩ := Prod.mk.inj (h.symm.trans heq)
  rw [Surroundings.afterPauses_clock]

/-- A wait that sees no end has looked when the time was over. -/
theorem waitForExit_none (h : s.waitForExit timeout = (.ok none, s')) :
    s'.device.tryWait s'.around.clock = .ok none ∧
      s.around.clock + timeout ≤ s'.around.clock := by
  have hlook := ofLook_eq_ok.mp (waitForExit_look h).symm
  obtain ⟨n, heq, -, hlast⟩ := waitForExit_looks s timeout
  obtain ⟨-, rfl⟩ := Prod.mk.inj (h.symm.trans heq)
  rw [Surroundings.afterPauses_clock] at hlook ⊢
  exact ⟨hlook, Nat.add_le_add_left (hlast hlook) _⟩

/-- A wait ends less than one pause behind its deadline. -/
theorem waitForExit_clock_lt (h : s.waitForExit timeout = (r, s')) :
    s'.around.clock < s.around.clock + timeout + waitPause := by
  obtain ⟨n, heq, hbefore, -⟩ := waitForExit_looks s timeout
  obtain ⟨-, rfl⟩ := Prod.mk.inj (h.symm.trans heq)
  rw [Surroundings.afterPauses_clock]
  cases n with
  | zero =>
    rw [Nat.zero_mul, waitPause]
    omega
  | succ n =>
    -- The look before the last one came before the deadline.
    have hearly := (hbefore n (Nat.lt_succ_self n)).2
    rw [Nat.succ_mul]
    omega

/-- A wait sees the end of a shell that runs at its beginning less than one pause late. -/
theorem waitForExit_seen (hrunning : s.device.RunningUntil s.around.clock)
    (h : s.waitForExit timeout = (.ok (some exit), s')) :
    ∃ e, s'.device.EndsAt e exit ∧ e ≤ s'.around.clock ∧ s'.around.clock < e + waitPause := by
  have hlook := ofLook_eq_ok.mp (waitForExit_look h).symm
  obtain ⟨n, heq, hbefore, -⟩ := waitForExit_looks s timeout
  obtain ⟨-, rfl⟩ := Prod.mk.inj (h.symm.trans heq)
  rw [Surroundings.afterPauses_clock] at hlook ⊢
  cases n with
  | zero =>
    obtain ⟨e, hend, hlate, hearly⟩ := hrunning.endsAt hlook
    exact ⟨e, hend, hearly, by rw [Nat.zero_mul, waitPause]; omega⟩
  | succ n =>
    -- The look before the last one has found it running.
    have hlast := Device.runningUntil_of_tryWait (hbefore n (Nat.lt_succ_self n)).1
    obtain ⟨e, hend, hlate, hearly⟩ := hlast.endsAt hlook
    exact ⟨e, hend, hearly, by rw [Nat.succ_mul]; omega⟩

/-! ## Terminations -/

/-- Both signals were sent, the second one at `time`. Until then the shell had at least `grace` to
end, and it was found running. -/
structure Forced (s : Session) (grace time : Nat) (s' : Session) : Prop where
  signals : s'.device.signals =
    (.kill, time) :: (.terminate, s.around.clock) :: s.device.signals
  patient : s.around.clock + grace ≤ time
  running : (s.signal .terminate).2.device.tryWait time = .ok none

/-- Behind a wait for which the shell was sent the gentle signal, the second one is due if the wait
has seen no end. -/
theorem forced_of_wait {s₁ s₂ s₃ : Session} {sent : Except Failure Unit}
    (hasked : s.signal .terminate = (.ok (), s₁)) (hwait : s₁.waitForExit grace = (.ok none, s₂))
    (hforced : s₂.signal .kill = (sent, s₃)) :
    Forced s grace s₂.around.clock s₃ ∧ s₃.device.killed = s.device.killed := by
  obtain ⟨hrunning, hpatient⟩ := waitForExit_none hwait
  -- Time passes in a wait, but it leaves the device as the signal left it.
  have hdevice : s₂.device = (s.device.signalGroup .terminate s.around.clock).2 := by
    rw [waitForExit_device hwait, eq_of_signal hasked]
  have hclock := clock_of_signal hasked
  refine ⟨⟨?_, hclock ▸ hpatient, ?_⟩, ?_⟩
  · rw [eq_of_signal hforced, hdevice]
    rfl
  · rw [signal_eq, ← hdevice, hrunning]
  · rw [eq_of_signal hforced, hdevice]
    rfl

/-- What the process group of a shell that still runs is sent. -/
theorem Terminated.group (h : Terminated s grace r s')
    (hrunning : s.device.tryWait s.around.clock = .ok none)
    (hgroup : s.device.script.hasGroup = true) :
    s'.device.killed = s.device.killed ∧
      ((s'.device.signals = (.terminate, s.around.clock) :: s.device.signals ∧ r ≠ .ok none) ∨
        ∃ time, Forced s grace time s' ∧ (r = .ok none →
          time + 200 ≤ s'.around.clock ∧ s'.device.tryWait s'.around.clock = .ok none)) := by
  -- By the way it was ended; those of a shell without a group are none of these.
  cases h with
  | seen look known => exact absurd (look.symm.trans (by rw [hrunning]; rfl)) known
  | unasked running group refused =>
    rw [eq_of_signal refused]
    exact ⟨rfl, .inl ⟨rfl, nofun⟩⟩
  | asked running group sent wait known =>
    rw [waitForExit_device wait, eq_of_signal sent]
    exact ⟨rfl, .inl ⟨rfl, known⟩⟩
  | unforced running group sent wait refused =>
    obtain ⟨hforced, hkilled⟩ := forced_of_wait sent wait refused
    exact ⟨hkilled, .inr ⟨_, hforced, nofun⟩⟩
  | @forced s₁ s₂ s₃ r s' running group sent wait sent' wait' =>
    obtain ⟨hforced, hkilled⟩ := forced_of_wait sent wait sent'
    have hclock := clock_of_signal sent'
    refine ⟨(waitForExit_device wait').symm ▸ hkilled, .inr ⟨s₂.around.clock,
      ⟨(waitForExit_device wait').symm ▸ hforced.signals, hforced.patient, hforced.running⟩, ?_⟩⟩
    rintro rfl
    obtain ⟨hlook, hlate⟩ := waitForExit_none wait'
    exact ⟨hclock ▸ hlate, hlook⟩
  | unkilled running alone | killed running alone =>
    rw [alone] at hgroup
    cases hgroup

/-- What becomes of a shell that still runs and has no process group. -/
theorem Terminated.alone (h : Terminated s grace r s')
    (hrunning : s.device.tryWait s.around.clock = .ok none)
    (halone : s.device.script.hasGroup = false) :
    s'.device.killed = s.around.clock :: s.device.killed ∧
      s'.device.signals = s.device.signals ∧ (r = .ok none →
        s.around.clock + grace ≤ s'.around.clock ∧
          s'.device.tryWait s'.around.clock = .ok none) := by
  -- Likewise, with the ways of a process group ruled out.
  cases h with
  | seen look known => exact absurd (look.symm.trans (by rw [hrunning]; rfl)) known
  | unasked running group | asked running group | unforced running group
    | forced running group =>
    rw [group] at halone
    cases halone
  | unkilled running alone refused =>
    obtain ⟨-, rfl⟩ := Prod.mk.inj refused
    exact ⟨rfl, rfl, nofun⟩
  | killed running alone sent wait =>
    obtain ⟨-, rfl⟩ := Prod.mk.inj sent
    rw [waitForExit_device wait]
    refine ⟨rfl, rfl, ?_⟩
    rintro rfl
    obtain ⟨hlook, hlate⟩ := waitForExit_none wait
    exact ⟨hlate, waitForExit_device wait ▸ hlook⟩

/-- A termination sees the end of a shell that ran at its beginning less than one pause late. -/
theorem Terminated.seen_in_time (h : Terminated s grace (.ok (some exit)) s')
    (hrunning : s.device.tryWait s.around.clock = .ok none) :
    ∃ e, s'.device.EndsAt e exit ∧ e ≤ s'.around.clock ∧ s'.around.clock < e + waitPause := by
  have hnow : s.device.RunningUntil s.around.clock :=
    (Device.runningUntil_of_tryWait hrunning).mono (Nat.le_succ _)
  -- Behind a signal, the shell still runs until the signal was sent.
  have hsignal : ∀ {s s' : Session} {signal r}, s.device.RunningUntil s.around.clock →
      s.signal signal = (r, s') → s'.device.RunningUntil s'.around.clock := by
    intro s s' signal r hruns heq
    rw [eq_of_signal heq]
    exact hruns.signalGroup signal
  cases h with
  | seen look =>
    rw [hrunning] at look
    cases look
  | asked running group sent wait => exact waitForExit_seen (hsignal hnow sent) wait
  | @forced s₁ s₂ s₃ r s' running group sent wait sent' wait' =>
    have hlater : s₂.device.RunningUntil s₂.around.clock :=
      (Device.runningUntil_of_tryWait (waitForExit_none wait).1).mono (Nat.le_succ _)
    exact waitForExit_seen (hsignal hlater sent') wait'
  | killed running alone sent wait =>
    obtain ⟨-, rfl⟩ := Prod.mk.inj sent
    exact waitForExit_seen (s := { s with device := _ }) hnow.killShell wait

/-- An end that is seen is the end of the shell. -/
theorem Terminated.ended (h : Terminated s grace (.ok (some exit)) s') :
    s'.device.ended? s'.around.clock = some exit := by
  have hwait : ∀ {s : Session} {timeout}, s.waitForExit timeout = (.ok (some exit), s') →
      s'.device.ended? s'.around.clock = some exit := fun heq =>
    Device.ended?_of_tryWait (ofLook_eq_ok.mp (waitForExit_look heq).symm)
  cases h with
  | seen look => exact Device.ended?_of_tryWait (ofLook_eq_ok.mp look)
  | asked running group sent wait => exact hwait wait
  | forced running group sent wait sent' wait' => exact hwait wait'
  | killed running alone sent wait => exact hwait wait

/-- A termination takes less than the time until the shell is forced and the time that it then has,
and one pause. -/
theorem Terminated.clock_lt (h : Terminated s grace r s') :
    s'.around.clock < s.around.clock + grace + forcedWait + waitPause := by
  have hpause : 0 < waitPause := Nat.succ_pos _
  cases h with
  | seen => omega
  | unasked running group refused =>
    have hnow := clock_of_signal refused
    omega
  | asked running group sent wait =>
    have hnow := clock_of_signal sent
    have hgentle := waitForExit_clock_lt wait
    omega
  | unforced running group sent wait refused =>
    have hnow := clock_of_signal sent
    have hgentle := waitForExit_clock_lt wait
    have hlater := clock_of_signal refused
    omega
  | @forced s₁ s₂ s₃ r s' running group sent wait sent' wait' =>
    have hnow := clock_of_signal sent
    have hgentle := waitForExit_clock_lt wait
    have hlater := clock_of_signal sent'
    -- The time of a forced shell is a multiple of the pause, so nothing is added to it.
    have hforced : s'.around.clock ≤ s₃.around.clock + forcedWait := by
      have hclock := waitForExit_clock_le 20 s₃
      rwa [show waitPause * 20 = forcedWait from rfl, wait'] at hclock
    omega
  | unkilled =>
    show s.around.clock < _
    omega
  | @killed d r s' running alone sent wait =>
    have hgentle : s'.around.clock < s.around.clock + grace + waitPause :=
      waitForExit_clock_lt (s := { s with device := d }) wait
    omega

/-- However the shell behaves: if it has ended, its end is given at once, and it is sent nothing. Of
a shell that still runs, the process group is sent the gentle signal, and the second one only when the
shell had its time and still runs; a shell without a group is killed. That no end was seen means that
the last look came late enough and found it running. An end that was seen is the end of the shell, and
it is seen less than ten milliseconds late. -/
theorem terminate_escalates (s : Session) (grace : Nat) :
    let now := s.around.clock
    let r := s.terminate grace
    let later := r.2.around.clock
    (∀ exit, s.device.tryWait now = .ok (some exit) → r = (.ok (some exit), s)) ∧
      (∀ e, s.device.tryWait now = .error e → r.2 = s) ∧
      (s.device.tryWait now = .ok none → s.device.script.hasGroup = true →
        r.2.device.killed = s.device.killed ∧
          ((r.2.device.signals = (.terminate, now) :: s.device.signals ∧ r.1 ≠ .ok none) ∨
            ∃ time, Forced s grace time r.2 ∧ (r.1 = .ok none →
              time + 200 ≤ later ∧ r.2.device.tryWait later = .ok none))) ∧
      (s.device.tryWait now = .ok none → s.device.script.hasGroup = false →
        r.2.device.killed = now :: s.device.killed ∧ r.2.device.signals = s.device.signals ∧
          (r.1 = .ok none → now + grace ≤ later ∧ r.2.device.tryWait later = .ok none)) ∧
      (∀ exit, r.1 = .ok (some exit) → r.2.device.ended? later = some exit ∧
        (s.device.tryWait now = .ok none →
          ∃ e, r.2.device.EndsAt e exit ∧ e ≤ later ∧ later < e + 10)) ∧
      later < now + grace + 210 := by
  intro now r later
  -- One of the ways was taken, and each part reads off what it tells.
  have hways : Terminated s grace r.1 r.2 := terminated_of_terminate rfl
  refine ⟨fun exit hseen => ?_, fun e hfailed => ?_, hways.group, hways.alone,
    fun exit hexit => ?_, hways.clock_lt⟩
  · have hlook : s.device.tryWait s.around.clock ≠ .ok none := by rw [hseen]; nofun
    rw [show r = _ from terminate_of_look grace hlook, hseen]
    rfl
  · have hlook : s.device.tryWait s.around.clock ≠ .ok none := by rw [hfailed]; nofun
    rw [show r = _ from terminate_of_look grace hlook]
  · rw [hexit] at hways
    exact ⟨hways.ended, hways.seen_in_time⟩

/-- A shell that ignores the gentle signal, and takes 7 ms to end behind the second one. It had 25 ms
to end, the look after 30 ms still finds it running, and the look after 40 ms sees its end. -/
theorem terminate_escalates_late :
    let s : Session :=
      { terminal := .blank {}
        startedAt := 0
        device := .ofScript { cues := [], hasGroup := true, onKill := .ends 7 (.signal "Killed") }
        around := { clock := 5 } }
    let r := s.terminate 25
    s.device.tryWait 5 = .ok none ∧ s.device.script.hasGroup = true ∧
      r.1 = .ok (some (.signal "Killed")) ∧ Forced s 25 35 r.2 ∧
      (∃ e, r.2.device.EndsAt e (.signal "Killed") ∧ e ≤ 45 ∧ 45 < e + 10) ∧
      r.2.around.clock = 45 := by
  intro s r
  have hrunning : s.device.tryWait 5 = .ok none := by decide
  have hexit : r.1 = .ok (some (.signal "Killed")) := by
    -- What is decided is the exit, because failures are not compared.
    have hended : r.1.toOption = some (some (.signal "Killed")) := by decide +kernel
    cases hr : r.1 with
    | error f =>
      rw [hr] at hended
      cases hended
    | ok exit? =>
      rw [hr] at hended
      exact congrArg Except.ok (Option.some.inj hended)
  have hclock : r.2.around.clock = 45 := by decide +kernel
  have hsignals : r.2.device.signals = [(.kill, 35), (.terminate, 5)] := by decide +kernel
  obtain ⟨-, -, hgroup, -, hseen, -⟩ := terminate_escalates s 25
  obtain ⟨-, hgentle | ⟨time, hforced, -⟩⟩ := hgroup hrunning rfl
  · rw [hsignals] at hgentle
    cases hgentle.1
  · obtain rfl : 35 = time := by
      have hsame := hforced.signals.symm.trans hsignals
      cases hsame
      rfl
    exact ⟨hrunning, rfl, hexit, hforced, hclock ▸ (hseen _ hexit).2 hrunning, hclock⟩

end Session

end HistoryAudit
