/-
  HistoryAudit.Proofs.Session.Termination

  What ending a shell consists of. A wait for its end is a number of looks with a
  pause between two of them, and all looks but the last find it running before the
  deadline (`waitForExit_looks`). `Terminated` lists the ways in which a termination
  can go, call by call, and `terminated_of_terminate` says that there are no others.
  What is proved of a termination is proved of these ways.
-/
import HistoryAudit.Proofs.Pauses
import HistoryAudit.Session.Shutdown

namespace HistoryAudit.Session

variable {s : Session} {timeout grace : Nat}

/-! ## Waiting for the end -/

/-- A wait pauses as long as a look finds the shell running before the deadline. -/
theorem waitUntil_looks (deadline : Nat) (d : Device) (s : Surroundings) :
    ∃ n, waitUntil deadline d s =
        (d.tryWait (s.clock + n * waitPause), s.afterPauses waitPause n) ∧
      (∀ k < n, d.tryWait (s.clock + k * waitPause) = .ok none ∧
        s.clock + k * waitPause < deadline) ∧
      (d.tryWait (s.clock + n * waitPause) = .ok none → deadline ≤ s.clock + n * waitPause) := by
  fun_induction waitUntil deadline d s with
  | case1 s e hlook | case2 s exit hlook =>
    refine ⟨0, ?_, nofun, fun h => ?_⟩
    · rw [Nat.zero_mul, Nat.add_zero, hlook]
      rfl
    · rw [Nat.zero_mul, Nat.add_zero, hlook] at h
      cases h
  | case3 s hlook hlate =>
    refine ⟨0, ?_, nofun, ?_⟩
    · rw [Nat.zero_mul, Nat.add_zero, hlook]
      rfl
    · rw [Nat.zero_mul, Nat.add_zero]
      exact fun _ => hlate
  | case4 s hrunning hearly ih =>
    obtain ⟨n, heq, hbefore, hlast⟩ := ih
    -- Look `k` of the rest is look `k + 1` of the whole.
    have hclock : ∀ k, (s.pause waitPause).clock + k * waitPause =
        s.clock + (k + 1) * waitPause := by
      intro k
      show s.clock + waitPause + k * waitPause = _
      rw [Nat.succ_mul]
      omega
    rw [hclock] at heq hlast
    refine ⟨n + 1, ?_, ?_, hlast⟩
    · rw [heq, Surroundings.afterPauses_pause]
    · rintro (_ | k) hk
      · rw [Nat.zero_mul, Nat.add_zero]
        exact ⟨hrunning, Nat.lt_of_not_le hearly⟩
      · rw [← hclock]
        exact hbefore k (Nat.lt_of_succ_lt_succ hk)

theorem waitForExit_device {r : Except Failure (Option Exit)} {s' : Session}
    (h : s.waitForExit timeout = (r, s')) : s'.device = s.device := by
  unfold waitForExit at h
  split at h <;> cases h <;> rfl

/-- What a wait makes of its last look. -/
def ofLook : Except SystemError (Option Exit) → Except Failure (Option Exit)
  | .ok exit? => .ok exit?
  | .error e => .error (.ofSource "failed to wait for child" e.message)

theorem ofLook_eq_ok {look : Except SystemError (Option Exit)} {exit? : Option Exit} :
    ofLook look = .ok exit? ↔ look = .ok exit? := by
  cases look with
  | ok seen => rw [ofLook, Except.ok.injEq, Except.ok.injEq]
  | error e => exact ⟨nofun, nofun⟩

/-- A wait for at most `timeout` is some looks, of which the last one decides. -/
theorem waitForExit_looks (s : Session) (timeout : Nat) :
    ∃ n, s.waitForExit timeout =
        (ofLook (s.device.tryWait (s.around.clock + n * waitPause)),
          { s with around := s.around.afterPauses waitPause n }) ∧
      (∀ k < n, s.device.tryWait (s.around.clock + k * waitPause) = .ok none ∧
        k * waitPause < timeout) ∧
      (s.device.tryWait (s.around.clock + n * waitPause) = .ok none → timeout ≤ n * waitPause) := by
  obtain ⟨n, heq, hbefore, hlast⟩ :=
    waitUntil_looks (s.around.clock + timeout) s.device s.around
  refine ⟨n, ?_, fun k hk => ⟨(hbefore k hk).1, Nat.lt_of_add_lt_add_left (hbefore k hk).2⟩,
    fun h => Nat.le_of_add_le_add_left (hlast h)⟩
  rw [waitForExit, heq]
  cases s.device.tryWait (s.around.clock + n * waitPause) <;> rfl

/-- A wait without patience is one look, and no time passes. -/
theorem waitForExit_zero (s : Session) :
    s.waitForExit 0 = (ofLook (s.device.tryWait s.around.clock), s) := by
  obtain ⟨n, heq, hbefore, -⟩ := waitForExit_looks s 0
  cases n with
  | zero =>
    rw [heq, Nat.zero_mul, Nat.add_zero]
    rfl
  | succ n => exact absurd (hbefore n (Nat.lt_succ_self n)).2 (Nat.not_lt_zero _)

/-! ## Signals -/

theorem signal_eq (s : Session) (signal : Signal) :
    (s.signal signal).2 =
      { s with device := (s.device.signalGroup signal s.around.clock).2 } := by
  unfold Session.signal
  split <;> rename_i heq <;> rw [heq]

/-- Whether it is refused or not, a signal changes nothing but the device. -/
theorem eq_of_signal {signal : Signal} {r : Except Failure Unit} {s' : Session}
    (h : s.signal signal = (r, s')) :
    s' = { s with device := (s.device.signalGroup signal s.around.clock).2 } := by
  rw [← signal_eq, h]

/-- A signal takes no time. -/
theorem clock_of_signal {signal : Signal} {r : Except Failure Unit} {s' : Session}
    (h : s.signal signal = (r, s')) : s'.around.clock = s.around.clock := by
  rw [eq_of_signal h]

/-! ## The ways of a termination -/

/-- The ways in which the shell of a session can be terminated, each with what it gives and the
session behind it. -/
inductive Terminated (s : Session) (grace : Nat) : Except Failure (Option Exit) → Session → Prop
  /-- The first look fails, or sees the end. -/
  | seen {r} (look : ofLook (s.device.tryWait s.around.clock) = r) (known : r ≠ .ok none) :
    Terminated s grace r s
  /-- The gentle signal is refused. -/
  | unasked {f s'} (running : s.device.tryWait s.around.clock = .ok none)
    (group : s.device.script.hasGroup = true) (refused : s.signal .terminate = (.error f, s')) :
    Terminated s grace (.error f) s'
  /-- Behind the gentle signal, a look fails or sees the end. -/
  | asked {s₁ r s'} (running : s.device.tryWait s.around.clock = .ok none)
    (group : s.device.script.hasGroup = true) (sent : s.signal .terminate = (.ok (), s₁))
    (wait : s₁.waitForExit grace = (r, s')) (known : r ≠ .ok none) : Terminated s grace r s'
  /-- The gentle signal is of no use, and the second one is refused. -/
  | unforced {s₁ s₂ f s'} (running : s.device.tryWait s.around.clock = .ok none)
    (group : s.device.script.hasGroup = true) (sent : s.signal .terminate = (.ok (), s₁))
    (wait : s₁.waitForExit grace = (.ok none, s₂)) (refused : s₂.signal .kill = (.error f, s')) :
    Terminated s grace (.error f) s'
  /-- Both signals are sent. -/
  | forced {s₁ s₂ s₃ r s'} (running : s.device.tryWait s.around.clock = .ok none)
    (group : s.device.script.hasGroup = true) (sent : s.signal .terminate = (.ok (), s₁))
    (wait : s₁.waitForExit grace = (.ok none, s₂)) (sent' : s₂.signal .kill = (.ok (), s₃))
    (wait' : s₃.waitForExit forcedWait = (r, s')) : Terminated s grace r s'
  /-- There is no group, and the shell cannot be killed. -/
  | unkilled {e d} (running : s.device.tryWait s.around.clock = .ok none)
    (alone : s.device.script.hasGroup = false)
    (refused : s.device.killShell s.around.clock = (some e, d)) :
    Terminated s grace (.error (.ofSource "failed to terminate child" e.message))
      { s with device := d }
  /-- There is no group, and the shell is killed. -/
  | killed {d r s'} (running : s.device.tryWait s.around.clock = .ok none)
    (alone : s.device.script.hasGroup = false)
    (sent : s.device.killShell s.around.clock = (none, d))
    (wait : waitForExit { s with device := d } grace = (r, s')) : Terminated s grace r s'

/-- There are no other ways. -/
theorem terminated_of_terminate {r : Except Failure (Option Exit)} {s' : Session}
    (h : s.terminate grace = (r, s')) : Terminated s grace r s' := by
  suffices hways : Terminated s grace (s.terminate grace).1 (s.terminate grace).2 by rwa [h] at hways
  -- The calls are taken in their order, and each case is an answer of one of them.
  rw [terminate, waitForExit_zero]
  cases hlook : ofLook (s.device.tryWait s.around.clock) with
  | error f => exact .seen hlook nofun
  | ok exit? =>
    cases exit? with
    | some exit => exact .seen hlook nofun
    | none =>
      have running := ofLook_eq_ok.mp hlook
      simp only
      cases group : s.device.script.hasGroup with
      | true =>
        rw [if_pos rfl]
        rcases sent : s.signal .terminate with ⟨f | _, s₁⟩
        · exact .unasked running group sent
        simp only
        rcases wait : s₁.waitForExit grace with ⟨f | _ | exit, s₂⟩
        · exact .asked running group sent wait nofun
        · simp only
          rcases sent' : s₂.signal .kill with ⟨f | _, s₃⟩
          · exact .unforced running group sent wait sent'
          · exact .forced running group sent wait sent' rfl
        · exact .asked running group sent wait nofun
      | false =>
        rw [if_neg Bool.false_ne_true]
        rcases sent : s.device.killShell s.around.clock with ⟨_ | e, d⟩
        · exact .killed running group sent rfl
        · exact .unkilled running group sent

/-- Unless the first look sees that the shell still runs, nothing more is done. -/
theorem terminate_of_look (grace : Nat) (h : s.device.tryWait s.around.clock ≠ .ok none) :
    s.terminate grace = (ofLook (s.device.tryWait s.around.clock), s) := by
  rcases heq : s.terminate grace with ⟨r, s'⟩
  cases terminated_of_terminate heq with
  | seen look => rw [look]
  | unasked running | asked running | unforced running | forced running | unkilled running
    | killed running => exact absurd running h

/-- What is kept by each call is kept by a termination. -/
theorem terminate_keeps {P : Session → Prop} (hsignal : ∀ s signal, P s → P (s.signal signal).2)
    (hwait : ∀ s timeout, P s → P (s.waitForExit timeout).2)
    (hkill : ∀ s : Session, P s →
      P { s with device := (s.device.killShell s.around.clock).2 }) (grace : Nat) (h : P s) :
    P (s.terminate grace).2 := by
  have hsent : ∀ {s s' : Session} {signal r}, P s → s.signal signal = (r, s') → P s' := by
    intro s s' signal r h heq
    have hnext := hsignal s signal h
    rwa [heq] at hnext
  have hwaited : ∀ {s s' : Session} {timeout r}, P s → s.waitForExit timeout = (r, s') → P s' := by
    intro s s' timeout r h heq
    have hnext := hwait s timeout h
    rwa [heq] at hnext
  have hkilled := hkill s h
  -- Each way is a chain of calls, so `P` is passed on from one to the next.
  rcases heq : s.terminate grace with ⟨r, s'⟩
  cases terminated_of_terminate heq with
  | seen => exact h
  | unasked running group refused => exact hsent h refused
  | asked running group sent wait => exact hwaited (hsent h sent) wait
  | unforced running group sent wait refused => exact hsent (hwaited (hsent h sent) wait) refused
  | forced running group sent wait sent' wait' =>
    exact hwaited (hsent (hwaited (hsent h sent) wait) sent') wait'
  | unkilled running alone refused => rwa [refused] at hkilled
  | killed running alone sent wait =>
    rw [sent] at hkilled
    exact hwaited hkilled wait

end HistoryAudit.Session
