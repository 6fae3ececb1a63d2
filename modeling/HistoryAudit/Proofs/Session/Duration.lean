/-
  HistoryAudit.Proofs.Session.Duration

  How long it takes to end a session. A loop that looks, and pauses between two
  looks, ends no later than a multiple of the pause behind its beginning, if its
  deadline is no later (`waitUntil_clock_le`, `dropUntil_clock_le`). So a shell that
  neither ends nor can be waited for costs the time until it is forced, the time
  that it then has, and the time of a last look (`close_clock_le`). Only reads and
  these loops take time.
-/
import HistoryAudit.Proofs.Session.Others

namespace HistoryAudit.Session

variable {s : Session}

/-! ## Writing takes no time -/

theorem write_around (s : Session) (bytes : List UInt8) : (s.write bytes).2.around = s.around := by
  unfold write
  split
  · rfl
  · split <;> rfl

/-! ## Waiting for the end -/

/-- Before a deadline that is `looks` pauses away at most, there is a pause to make, and then one
less is left. -/
theorem exists_pauses_left {clock deadline pause looks : Nat}
    (h : deadline ≤ clock + pause * looks) (hearly : ¬deadline ≤ clock) :
    ∃ left, pause * looks = pause + pause * left ∧ deadline ≤ clock + pause + pause * left := by
  cases looks with
  | zero => exact absurd h hearly
  | succ left =>
    have hmul : pause * (left + 1) = pause + pause * left := by rw [Nat.mul_succ, Nat.add_comm]
    refine ⟨left, hmul, ?_⟩
    omega

/-- A wait for the end of the shell whose deadline is `looks` pauses away at most takes no more than
these. -/
theorem waitUntil_clock_le (looks : Nat) {deadline : Nat} (d : Device) {s : Surroundings}
    (h : deadline ≤ s.clock + waitPause * looks) :
    (waitUntil deadline d s).2.clock ≤ s.clock + waitPause * looks := by
  fun_induction waitUntil deadline d s generalizing looks with
  -- The look fails, the shell has ended, or the deadline has come.
  | case1 | case2 | case3 => exact Nat.le_add_right _ _
  | case4 s hrunning hearly ih =>
    obtain ⟨left, hlooks, hleft⟩ := exists_pauses_left h hearly
    have hpause : (s.pause waitPause).clock = s.clock + waitPause := rfl
    have hrest := ih left hleft
    omega

theorem waitForExit_clock_le (looks : Nat) (s : Session) :
    (s.waitForExit (waitPause * looks)).2.around.clock ≤ s.around.clock + waitPause * looks := by
  have hwait := waitUntil_clock_le looks s.device (Nat.le_refl (s.around.clock + waitPause * looks))
  unfold waitForExit
  split
  · rename_i exit? around heq
    rwa [heq] at hwait
  · rename_i e around heq
    rwa [heq] at hwait

theorem signal_around (s : Session) (signal : Signal) :
    (s.signal signal).2.around = s.around := by rw [signal_eq]

/-- A shell that is ended takes the time that it is given, and the time that it has once it is
forced. -/
theorem terminate_clock_le (looks : Nat) (s : Session) :
    (s.terminate (waitPause * looks)).2.around.clock ≤
      s.around.clock + waitPause * looks + forcedWait := by
  -- A wait in looks is no longer than its looks together.
  have hwait : ∀ looks {s s' : Session} {r}, s.waitForExit (waitPause * looks) = (r, s') →
      s'.around.clock ≤ s.around.clock + waitPause * looks := by
    intro looks s s' r heq
    have hclock := waitForExit_clock_le looks s
    rwa [heq] at hclock
  rcases heq : s.terminate (waitPause * looks) with ⟨r, s'⟩
  show s'.around.clock ≤ _
  -- Only the ways with a wait take time, at most one gentle and one forced.
  cases terminated_of_terminate heq with
  | seen => omega
  | unasked running group refused =>
    have hnow := clock_of_signal refused
    omega
  | asked running group sent wait =>
    have hnow := clock_of_signal sent
    have hgentle := hwait looks wait
    omega
  | unforced running group sent wait refused =>
    have hnow := clock_of_signal sent
    have hgentle := hwait looks wait
    have hlater := clock_of_signal refused
    omega
  | forced running group sent wait sent' wait' =>
    have hnow := clock_of_signal sent
    have hgentle := hwait looks wait
    have hlater := clock_of_signal sent'
    have hforced : s'.around.clock ≤ _ + forcedWait := hwait 20 wait'
    omega
  | unkilled running alone refused =>
    show s.around.clock ≤ _
    omega
  | @killed d r s' running alone sent wait =>
    have hgentle : s'.around.clock ≤ s.around.clock + waitPause * looks :=
      hwait looks (s := { s with device := d }) wait
    omega

/-! ## Giving up -/

theorem dropUntil_clock_le (looks : Nat) {deadline : Nat} (d : Device) {s : Surroundings}
    (h : deadline ≤ s.clock + dropPause * looks) :
    (dropUntil deadline d s).2.clock ≤ s.clock + dropPause * looks := by
  fun_induction dropUntil deadline d s generalizing looks with
  | case1 | case2 => exact Nat.le_add_right _ _
  | case3 s hearly hrunning ih =>
    obtain ⟨left, hlooks, hleft⟩ := exists_pauses_left h hearly
    have hpause : (s.pause dropPause).clock = s.clock + dropPause := rfl
    have hrest := ih left hleft
    omega

theorem drop_clock_le (s : Session) : s.drop.around.clock ≤ s.around.clock + dropWait := by
  -- The looks are at a fixed distance and end by the deadline.
  have hlooked : ∀ d, (dropUntil (s.around.clock + dropWait) d s.around).2.clock ≤
      s.around.clock + dropWait :=
    fun d => dropUntil_clock_le 20 d (Nat.le_refl _)
  unfold drop
  simp only
  split
  · exact Nat.le_add_right _ _
  · split
    · rw [signal_eq]
      split
      · exact hlooked _
      · rw [signal_around]
        exact hlooked _
    · exact Nat.le_add_right _ _

/-- A session that is ended is also given up. -/
theorem close_clock_le (looks : Nat) (s : Session) :
    (s.close (waitPause * looks)).2.around.clock ≤
      s.around.clock + waitPause * looks + forcedWait + dropWait := by
  unfold close
  split
  · rename_i e d heq
    have hdrop : (drop { s with device := d }).around.clock ≤ s.around.clock + dropWait :=
      drop_clock_le _
    show (drop { s with device := d }).around.clock ≤ _
    omega
  · rename_i d heq
    have hended : (terminate { s with device := d } (waitPause * looks)).2.around.clock ≤
        s.around.clock + waitPause * looks + forcedWait := terminate_clock_le looks _
    have hdrop := drop_clock_le (terminate { s with device := d } (waitPause * looks)).2
    show (terminate { s with device := d } (waitPause * looks)).2.drop.around.clock ≤ _
    omega

end HistoryAudit.Session
