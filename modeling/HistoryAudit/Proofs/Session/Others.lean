/-
  HistoryAudit.Proofs.Session.Others

  What others do while a session runs: the shell comes to the next cue of its
  script, at which it may write a file, and time passes, in which changes to the
  files fall due. Reading and waiting let others act; a session does nothing to
  the files itself, from its first read to the moment it is given up
  (`OnlyOthers.close`, `OnlyOthers.drop`).
-/
import HistoryAudit.Proofs.Session.Kept
import HistoryAudit.Proofs.Session.Termination
import Mathlib.Logic.Relation

namespace HistoryAudit

open Device (Cue)

/-- One thing that others do. The shell has these cues before it. -/
inductive OthersAct : List Cue × Surroundings → List Cue × Surroundings → Prop
  /-- The shell meets its next cue. -/
  | shell (d : Device) (c : Cue) (rest : List Cue) (s : Surroundings) :
      OthersAct (c :: rest, s) (rest, (d.meet s c).2)
  /-- Time passes. -/
  | time (cues : List Cue) (s : Surroundings) (duration : Nat) :
      OthersAct (cues, s) (cues, s.pause duration)

/-- All that others do in the course of a run. -/
abbrev OthersActed : List Cue × Surroundings → List Cue × Surroundings → Prop :=
  Relation.ReflTransGen OthersAct

variable {start : List Cue × Surroundings}

/-! ## The device -/

namespace Device

theorem readCues_others (cues : List Cue) (d : Device) (s : Surroundings) :
    OthersActed (cues, s) ((readCues cues d s).2.1.cues, (readCues cues d s).2.2) := by
  -- Each cue that is met acts once; the others have not acted.
  induction cues generalizing d s with
  | nil => exact .refl
  | cons c rest ih =>
    have hmeet : OthersActed (c :: rest, s) (rest, (d.meet s c).2) := .single (.shell d c rest s)
    unfold readCues
    split
    · exact .refl
    · cases c.output with
      | finished | hungUp => exact .refl
      | idle | interrupted | failure => exact hmeet
      | data bytes =>
        simp only
        split
        · exact hmeet.trans (ih _ _)
        · exact hmeet

theorem kept_others (start : List Cue × Surroundings) :
    Session.Kept fun d s => OthersActed start (d.cues, s) where
  read {d s} h := by
    unfold read
    split
    · exact h.trans (readCues_others d.cues d s)
    · exact h
  pause duration h := h.tail (.time _ _ duration)

@[simp] theorem flush_cues (d : Device) : d.flush.2.cues = d.cues := by
  unfold flush
  simp only
  split <;> rfl

theorem writeOnce_cues (d : Device) (bytes : List UInt8) : (d.writeOnce bytes).2.cues = d.cues := by
  unfold writeOnce
  split <;> rfl

theorem writeFrom_cues (fuel : Nat) (d : Device) (bytes : List UInt8) :
    (writeFrom fuel d bytes).2.cues = d.cues := by
  induction fuel generalizing d bytes with
  | zero => rfl
  | succ fuel ih =>
    have honce := d.writeOnce_cues bytes
    unfold writeFrom
    split
    · rfl
    · split
      · rename_i heq
        rwa [heq] at honce
      · rename_i heq
        rwa [heq] at honce
      · rename_i heq
        rw [heq] at honce
        exact (ih _ _).trans honce

@[simp] theorem write_cues (d : Device) (bytes : List UInt8) : (d.write bytes).2.cues = d.cues :=
  writeFrom_cues ..

@[simp] theorem killShell_cues (d : Device) (clock : Nat) :
    (d.killShell clock).2.cues = d.cues := rfl

end Device

/-! ## The session -/

namespace Session

section Starting

variable {setup : Setup} {parent : Config.Variables} {d d' : Device} {s : Surroundings}

/-- When a shell was started, nothing that is shared has changed and no cue was met. -/
theorem start_ok {session : Session} (h : Session.start setup parent d s = (.ok session, d')) :
    session.device.cues = d.cues ∧ session.around = s := by
  unfold Session.start at h
  simp only at h
  split at h
  · cases h
  split at h
  · cases h
  · cases h
  split at h
  · cases h
  · cases h
    exact ⟨rfl, rfl⟩

theorem start_error {f : Failure} (h : Session.start setup parent d s = (.error f, d')) :
    d'.cues = d.cues := by
  unfold Session.start at h
  simp only at h
  split at h
  · -- The device was not opened.
    cases h
    rfl
  split at h
  · cases h
    rfl
  · cases h
    rfl
  split at h
  · cases h
    rfl
  · cases h

end Starting

/-- Since the start, only others have changed what the session shares with them. -/
def OnlyOthers (start : List Cue × Surroundings) (s : Session) : Prop :=
  OthersActed start (s.device.cues, s.around)

/-- Only the cues of the device matter. -/
theorem OnlyOthers.withDevice {s : Session} (h : s.OnlyOthers start) {d : Device}
    (hcues : d.cues = s.device.cues) : OnlyOthers start { s with device := d } := by
  unfold OnlyOthers at h ⊢
  rwa [hcues]

theorem OnlyOthers.read {s : Session} (h : s.OnlyOthers start) (timeout : Nat) :
    (s.read timeout).2.OnlyOthers start :=
  (Device.kept_others start).sessionRead timeout h

theorem OnlyOthers.write {s : Session} (h : s.OnlyOthers start) (bytes : List UInt8) :
    (s.write bytes).2.OnlyOthers start := by
  have hwrite := s.device.write_cues bytes
  unfold Session.write
  split
  · rename_i e d heq
    rw [heq] at hwrite
    exact h.withDevice hwrite
  · rename_i d heq
    rw [heq] at hwrite
    have hflush := d.flush_cues
    split
    · rename_i e d' heq'
      rw [heq'] at hflush
      exact h.withDevice (hflush.trans hwrite)
    · rename_i d' heq'
      rw [heq'] at hflush
      exact h.withDevice (hflush.trans hwrite)

theorem waitUntil_others (cues : List Cue) (deadline : Nat) (d : Device) (s : Surroundings) :
    OthersActed (cues, s) (cues, (waitUntil deadline d s).2) := by
  fun_induction waitUntil deadline d s with
  | case1 | case2 | case3 => exact .refl
  | case4 s hrunning hearly ih => exact .head (.time cues s waitPause) ih

theorem OnlyOthers.waitForExit {s : Session} (h : s.OnlyOthers start) (timeout : Nat) :
    (s.waitForExit timeout).2.OnlyOthers start := by
  have hwait := h.trans
    (waitUntil_others s.device.cues (s.around.clock + timeout) s.device s.around)
  unfold Session.waitForExit
  split
  · rename_i exit? around heq
    rwa [heq] at hwait
  · rename_i e around heq
    rwa [heq] at hwait

theorem OnlyOthers.signal {s : Session} (h : s.OnlyOthers start) (signal : Signal) :
    (s.signal signal).2.OnlyOthers start := by
  rw [signal_eq]
  exact h.withDevice rfl

theorem OnlyOthers.terminate {s : Session} (h : s.OnlyOthers start) (grace : Nat) :
    (s.terminate grace).2.OnlyOthers start :=
  terminate_keeps (P := OnlyOthers start) (fun _ signal h => h.signal signal)
    (fun _ timeout h => h.waitForExit timeout)
    (fun s h => h.withDevice (s.device.killShell_cues s.around.clock)) grace h

theorem dropUntil_others (cues : List Cue) (deadline : Nat) (d : Device) (s : Surroundings) :
    OthersActed (cues, s) (cues, (dropUntil deadline d s).2) := by
  fun_induction dropUntil deadline d s with
  | case1 | case2 => exact .refl
  | case3 s hearly hrunning ih => exact .head (.time cues s dropPause) ih

theorem OnlyOthers.drop {s : Session} (h : s.OnlyOthers start) : s.drop.OnlyOthers start := by
  have hflush := h.withDevice s.device.flush_cues
  unfold Session.drop
  simp only
  split
  · exact hflush
  · split
    · have hasked := hflush.signal .terminate
      rw [signal_eq] at hasked ⊢
      split
      · exact hasked.trans (dropUntil_others _ _ _ _)
      · exact OnlyOthers.signal (hasked.trans (dropUntil_others _ _ _ _)) .kill
    · exact hflush

theorem OnlyOthers.close {s : Session} (h : s.OnlyOthers start) (grace : Nat) :
    (s.close grace).2.OnlyOthers start := by
  have hflush := h.withDevice s.device.flush_cues
  unfold Session.close
  split
  · rename_i e d heq
    rw [heq] at hflush
    exact hflush.drop
  · rename_i d heq
    rw [heq] at hflush
    exact (hflush.terminate grace).drop

end Session

end HistoryAudit
