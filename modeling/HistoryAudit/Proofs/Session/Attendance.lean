/-
  HistoryAudit.Proofs.Session.Attendance

  Whether a shell that was started is left to itself. An attempt to end it is a
  signal to its process group or a kill. A session that is dropped only knows the
  first of the two (`drop_unattended_iff`), one that is closed knows both, unless
  something fails before (`close_unattended_iff`), and a start that fails behind
  the launch knows none (`start_unattended_iff`). `shell_left_unattended` says
  for each of the three ends when nothing at all is done.
-/
import HistoryAudit.Proofs.Session.Termination

namespace HistoryAudit

/-! ## Attempts -/

namespace Device

/-- The attempts to end the shell: signals to its process group, and kills. -/
def attempts (d : Device) : Nat := d.kills + d.signals.length

/-- Nothing was done to end the shell, and a look at it does not see that it has ended. -/
structure Unattended (d : Device) (clock : Nat) : Prop where
  attempts : d.attempts = 0
  unseen : ∀ exit, d.tryWait clock ≠ .ok (some exit)

variable {d d' : Device} {clock : Nat}

theorem not_unattended_of_attempts (h : 0 < d.attempts) : ¬d.Unattended clock := by
  intro hd
  have hzero := hd.attempts
  omega

theorem not_unattended_of_seen {exit : Exit} (h : d.tryWait clock = .ok (some exit)) :
    ¬d.Unattended clock := fun hd => hd.unseen exit h

/-- A shell that was sent nothing has nothing to answer. -/
theorem answers_of_attempts_eq_zero (h : d.attempts = 0) : d.answers = [] := by
  have hnone : d.killed.length = 0 ∧ d.signals.length = 0 := by
    rw [attempts, kills] at h
    omega
  rw [answers, List.length_eq_zero_iff.mp hnone.1, List.length_eq_zero_iff.mp hnone.2]
  rfl

theorem tryWait_congr (hanswers : d'.answers = d.answers) (hscript : d'.script = d.script)
    (hexit : d'.exit? = d.exit?) (clock : Nat) : d'.tryWait clock = d.tryWait clock := by
  rw [tryWait, tryWait, ended?, ended?, upcomingEnd?, upcomingEnd?, hanswers, hscript, hexit]

/-- Only the attempts, the script and the end that the shell has met matter. -/
theorem unattended_congr (hattempts : d'.attempts = d.attempts) (hscript : d'.script = d.script)
    (hexit : d'.exit? = d.exit?) : d'.Unattended clock ↔ d.Unattended clock := by
  have hlook : d.attempts = 0 → d'.tryWait clock = d.tryWait clock := fun hnone =>
    tryWait_congr (by rw [answers_of_attempts_eq_zero hnone,
      answers_of_attempts_eq_zero (hattempts.trans hnone)]) hscript hexit clock
  constructor
  · intro h
    have hnone : d.attempts = 0 := hattempts ▸ h.attempts
    exact ⟨hnone, hlook hnone ▸ h.unseen⟩
  · intro h
    exact ⟨hattempts.trans h.attempts, (hlook h.attempts).symm ▸ h.unseen⟩

/-- Each signal is an attempt, also one that is refused, and no attempt is forgotten. -/
theorem attempts_signalGroup (d : Device) (signal : Signal) (clock : Nat) :
    (d.signalGroup signal clock).2.attempts = d.attempts + 1 := rfl

/-- A kill is an attempt, also one that is refused or of no effect. -/
theorem attempts_killShell (d : Device) (clock : Nat) :
    (d.killShell clock).2.attempts = d.attempts + 1 := Nat.add_right_comm ..

theorem flush_script (d : Device) : d.flush.2.script = d.script := by
  unfold flush
  simp only
  split <;> rfl

/-- Passing on what was written does nothing to the shell. -/
theorem unattended_flush : d.flush.2.Unattended clock ↔ d.Unattended clock := by
  have hsame : d.flush.2.attempts = d.attempts ∧ d.flush.2.exit? = d.exit? := by
    unfold flush
    simp only
    split <;> exact ⟨rfl, rfl⟩
  exact unattended_congr hsame.1 d.flush_script hsame.2

/-- Of a shell that was sent nothing, the look fails iff it always does. -/
theorem tryWait_error_iff (h : d.attempts = 0) :
    (∃ e, d.tryWait clock = .error e) ↔ d.script.waitFails = true := by
  rw [tryWait, answers_of_attempts_eq_zero h, List.any_nil, Bool.or_false]
  split
  · exact ⟨fun _ => ‹_›, fun _ => ⟨_, rfl⟩⟩
  · refine ⟨?_, fun h => absurd h ‹_›⟩
    rintro ⟨e, he⟩
    cases he

end Device

namespace Session

/-! ## Starting -/

section Starting

variable {setup : Setup} {parent : Config.Variables} {script : Device.Script} {a : Surroundings}

/-- The shell of this setup is started, and then a step behind the launch fails. -/
def Setup.FailsBehindLaunch (setup : Setup) (parent : Config.Variables) (script : Device.Script) :
    Prop :=
  (∃ env, setup.env.resolve parent = .ok env) ∧
    ∃ b, script.breakdown? = some b ∧ b.stage ≠ .openDevice ∧ b.stage ≠ .startShell

/-- A start makes no attempt to end the shell, however it ends. -/
theorem start_unattended_iff {d : Device} {clock : Nat} :
    (start setup parent d a).2.Unattended clock ↔ d.Unattended clock := by
  have hsame : (start setup parent d a).2.attempts = d.attempts ∧
      (start setup parent d a).2.script = d.script ∧
        (start setup parent d a).2.exit? = d.exit? := by
    unfold start
    simp only
    split
    · exact ⟨rfl, rfl, rfl⟩
    split
    · exact ⟨rfl, rfl, rfl⟩
    · exact ⟨rfl, rfl, rfl⟩
    split <;> exact ⟨rfl, rfl, rfl⟩
  exact Device.unattended_congr hsame.1 hsame.2.1 hsame.2.2

/-- A start fails after the shell was launched iff a step behind the launch fails. -/
theorem start_failed_launched_iff :
    (∃ f, (start setup parent (.ofScript script) a).1 = .error f) ∧
        (start setup parent (.ofScript script) a).2.launch?.isSome = true ↔
      setup.FailsBehindLaunch parent script := by
  unfold start Setup.FailsBehindLaunch
  simp only [Device.ofScript]
  cases hresolve : setup.env.resolve parent with
  | error f =>
    -- Whether the device opens or not, the variables keep the shell from being launched.
    cases hbreak : script.breakdown? with
    | none => simp
    | some b => cases hstage : b.stage <;> simp [Option.filter, hstage]
  | ok env =>
    cases hbreak : script.breakdown? with
    | none => simp
    | some b => cases hstage : b.stage <;> simp [Option.filter, hstage]

end Starting

/-! ## Dropping and closing -/

/-- Nothing was done to end the shell of this session, and nobody sees that it has ended. -/
def Unattended (s : Session) : Prop := s.device.Unattended s.around.clock

variable {s : Session}

/-- Sending a signal is an attempt, also if it is refused. -/
theorem signal_attempts (s : Session) (signal : Signal) :
    (s.signal signal).2.device.attempts = s.device.attempts + 1 ∧
      (s.signal signal).2.device.script = s.device.script := by
  rw [signal_eq]
  exact ⟨Device.attempts_signalGroup .., rfl⟩

/-- A session that is dropped leaves its shell to itself iff the shell has no process group. -/
theorem drop_unattended_iff :
    s.drop.Unattended ↔ s.Unattended ∧ s.device.script.hasGroup = false := by
  have hflush : ∀ clock, s.device.flush.2.Unattended clock ↔ s.device.Unattended clock :=
    fun clock => Device.unattended_flush
  unfold drop Unattended
  simp only [s.device.flush_script]
  split
  · -- The look sees the end, before and after the session is dropped.
    rename_i exit hseen
    have hnot := Device.not_unattended_of_seen hseen
    exact ⟨fun h => absurd h hnot, fun h => absurd ((hflush _).mpr h.1) hnot⟩
  · cases hgroup : s.device.script.hasGroup with
    | false =>
      -- Nobody sends anything, so it runs on.
      rw [if_neg Bool.false_ne_true, hflush]
      exact ⟨fun h => ⟨h, rfl⟩, And.left⟩
    | true =>
      rw [if_pos rfl]
      -- The group is sent a signal, whatever comes of it.
      have hsignal : ∀ signal clock (s : Session),
          ¬(s.signal signal).2.device.Unattended clock := fun signal clock s =>
        Device.not_unattended_of_attempts ((s.signal_attempts signal).1 ▸ Nat.succ_pos _)
      refine ⟨fun h => ?_, fun h => Bool.noConfusion h.2⟩
      split at h
      · exact absurd h (hsignal _ _ _)
      · exact absurd h (hsignal _ _ _)

theorem terminate_script (s : Session) (grace : Nat) :
    (s.terminate grace).2.device.script = s.device.script :=
  terminate_keeps (P := fun s' => s'.device.script = s.device.script)
    (fun s' signal h => (s'.signal_attempts signal).2.trans h)
    (fun _ _ h => (congrArg Device.script (waitForExit_device rfl)).trans h) (fun _ h => h) grace rfl

/-- A shell that still runs is sent a signal, or it is killed. -/
theorem terminate_attempts (grace : Nat) (h : s.device.tryWait s.around.clock = .ok none) :
    0 < (s.terminate grace).2.device.attempts := by
  -- A wait does nothing to the device, so the last attempt is still there behind it.
  have hsignal : ∀ {s s' : Session} {signal r}, s.signal signal = (r, s') →
      0 < s'.device.attempts := by
    intro s s' signal r heq
    rw [eq_of_signal heq, Device.attempts_signalGroup]
    exact Nat.succ_pos _
  have hkill := s.device.attempts_killShell s.around.clock
  rcases heq : s.terminate grace with ⟨r, s'⟩
  cases terminated_of_terminate heq with
  | seen look known => exact absurd (look.symm.trans (by rw [h]; rfl)) known
  | unasked running group refused => exact hsignal refused
  | asked running group sent wait =>
    rw [waitForExit_device wait]
    exact hsignal sent
  | unforced running group sent wait refused => exact hsignal refused
  | forced running group sent wait sent' wait' =>
    rw [waitForExit_device wait']
    exact hsignal sent'
  | unkilled running alone refused =>
    rw [refused] at hkill
    exact hkill ▸ Nat.succ_pos _
  | killed running alone sent wait =>
    rw [sent] at hkill
    rw [waitForExit_device wait]
    exact hkill ▸ Nat.succ_pos _

/-- A shell that is to be terminated is left to itself iff the look at it fails. -/
theorem terminate_unattended_iff (grace : Nat) :
    (s.terminate grace).2.Unattended ↔ s.Unattended ∧ s.device.script.waitFails = true := by
  by_cases hlook : s.device.tryWait s.around.clock = .ok none
  · have hnot : ¬(s.terminate grace).2.Unattended :=
      Device.not_unattended_of_attempts (terminate_attempts grace hlook)
    refine ⟨fun h => absurd h hnot, fun h => ?_⟩
    -- The look has not failed.
    obtain ⟨e, he⟩ := (Device.tryWait_error_iff h.1.attempts).mpr h.2
    rw [hlook] at he
    cases he
  · rw [terminate_of_look grace hlook]
    refine ⟨fun h => ⟨h, ?_⟩, And.left⟩
    -- A look that sees neither that the shell runs nor that it has ended has failed.
    have hfailed : ∃ e, s.device.tryWait s.around.clock = .error e := by
      rcases heq : s.device.tryWait s.around.clock with e | _ | exit
      · exact ⟨e, rfl⟩
      · exact absurd heq hlook
      · exact absurd heq (h.unseen exit)
    exact (Device.tryWait_error_iff h.attempts).mp hfailed

/-- A session that is closed leaves its shell to itself iff the shell has no process group, and
something fails before it is killed: passing on what was written, or the look at it. -/
theorem close_unattended_iff (grace : Nat) :
    (s.close grace).2.Unattended ↔ s.Unattended ∧ s.device.script.hasGroup = false ∧
      ((∃ e, s.device.flush.1 = some e) ∨ s.device.script.waitFails = true) := by
  have hflush : s.device.flush.2.Unattended s.around.clock ↔ s.Unattended :=
    Device.unattended_flush
  have hscript := s.device.flush_script
  rw [close]
  rcases heq : s.device.flush with ⟨e? , d⟩
  rw [heq] at hflush hscript
  have hpassed : Unattended { s with device := d } ↔ s.Unattended := hflush
  have hsame : d.script = s.device.script := hscript
  -- If passing on fails, the session is only dropped.
  cases e? with
  | some e =>
    simp only
    rw [drop_unattended_iff, hpassed, hsame]
    exact ⟨fun h => ⟨h.1, h.2, .inl ⟨e, rfl⟩⟩, fun h => ⟨h.1, h.2.1⟩⟩
  | none =>
    simp only
    rw [drop_unattended_iff, terminate_unattended_iff, terminate_script, hpassed, hsame]
    constructor
    · rintro ⟨⟨hrunning, hwait⟩, hgroup⟩
      exact ⟨hrunning, hgroup, .inr hwait⟩
    · rintro ⟨hrunning, hgroup, ⟨e, he⟩ | hwait⟩
      · cases he
      · exact ⟨⟨hrunning, hwait⟩, hgroup⟩

/-! ## The three ends -/

/-- When a shell is left to itself, with no attempt to end it and nobody who has seen that it has
ended: by a start that fails behind the launch, always; by a session that is dropped, iff the shell
has no process group; and by a session that is closed, iff it has none and something fails before it
is killed. A shell with a process group is sent a signal in any case. -/
theorem shell_left_unattended (setup : Setup) (parent : Config.Variables) (script : Device.Script)
    (a : Surroundings) (s : Session) (grace : Nat) :
    (((∃ f, (start setup parent (.ofScript script) a).1 = .error f) ∧
          (start setup parent (.ofScript script) a).2.launch?.isSome = true ∧
            (start setup parent (.ofScript script) a).2.Unattended a.clock) ↔
        setup.FailsBehindLaunch parent script ∧ (Device.ofScript script).Unattended a.clock) ∧
      (s.drop.Unattended ↔ s.Unattended ∧ s.device.script.hasGroup = false) ∧
      ((s.close grace).2.Unattended ↔ s.Unattended ∧ s.device.script.hasGroup = false ∧
        ((∃ e, s.device.flush.1 = some e) ∨ s.device.script.waitFails = true)) := by
  refine ⟨?_, drop_unattended_iff, close_unattended_iff grace⟩
  rw [start_unattended_iff, ← and_assoc, start_failed_launched_iff]

/-- The reader of the device cannot be opened. The shell runs by then, and nothing is done about
it. -/
theorem started_shell_left_running :
    ¬∀ (setup : Setup) (parent : Config.Variables) (script : Device.Script) (a : Surroundings),
        (∃ f, (start setup parent (.ofScript script) a).1 = .error f) →
          (start setup parent (.ofScript script) a).2.launch?.isSome = true →
            ¬(start setup parent (.ofScript script) a).2.Unattended a.clock := by
  intro hall
  let setup : Setup := { command := "sh", args := [] }
  let script : Device.Script := { breakdown? := some ⟨.openReader, "scripted reader failure"⟩ }
  refine hall setup [] script {} ⟨_, rfl⟩ rfl ⟨rfl, ?_⟩
  rintro exit hseen
  cases hseen

end Session

end HistoryAudit
