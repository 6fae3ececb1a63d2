/-
  HistoryAudit.Proofs.Session.Status

  What a reader sees of the end of a shell, and what it does not. Devices that
  give the same output give it alike to every read, whatever becomes of the shell
  behind them (`read_sameOutput`), and so a session reads the same from them
  (`read_withDevice`). A reader only sees that a device is closed, and one that
  stays open is never seen so (`StaysOpen.calls`).
-/
import HistoryAudit.Proofs.Session.Calls
import HistoryAudit.Proofs.Session.Others
import Mathlib.Data.List.Forall2

namespace HistoryAudit

namespace Device

/-! ## The same output -/

/-- The cues are the same, except that the shell may end at one and not at the other. -/
structure Cue.SameOutput (c c' : Cue) : Prop where
  output : c'.output = c.output
  lines : c'.lines = c.lines
  due : c'.due = c.due
  file : c'.file? = c.file?

/-- The devices give the same output. Everything else may differ, such as whether the shell has
ended, and when it will. -/
structure SameOutput (d d' : Device) : Prop where
  cues : List.Forall₂ Cue.SameOutput d.cues d'.cues
  pending : d'.pending = d.pending
  input : d'.input = d.input

theorem readCues_sameOutput {cues cues' : List Cue}
    (hcues : List.Forall₂ Cue.SameOutput cues cues') {d d' : Device}
    (hpending : d'.pending = d.pending) (hinput : d'.input = d.input) (s : Surroundings) :
    ∃ e', (readCues cues d s).2.1.SameOutput e' ∧
      readCues cues' d' s = ((readCues cues d s).1, e', (readCues cues d s).2.2) := by
  -- The cues differ in nothing that decides which of them are met.
  induction hcues generalizing d d' s with
  | nil => exact ⟨{ d' with cues := [] }, ⟨.nil, hpending, hinput⟩, rfl⟩
  | @cons c c' rest rest' hc hrest ih =>
    have hlines : d'.inputLines = d.inputLines := congrArg (List.count 10) hinput
    have hmeet : d'.meet s c' = ((d'.meet s c').1, (d.meet s c).2) := by
      rw [meet, meet, hc.file]
    rw [readCues, readCues, hlines, hc.lines, hc.due, hc.output, hmeet]
    by_cases hwait : d.inputLines < c.lines ∨ s.clock < c.due
    · rw [if_pos hwait, if_pos hwait]
      exact ⟨{ d' with cues := c' :: rest' }, ⟨.cons hc hrest, hpending, hinput⟩, rfl⟩
    · rw [if_neg hwait, if_neg hwait]
      cases c.output with
      | finished | hungUp =>
        exact ⟨{ d' with cues := c' :: rest' }, ⟨.cons hc hrest, hpending, hinput⟩, rfl⟩
      | idle | interrupted | failure e =>
        exact ⟨{ (d'.meet s c').1 with cues := rest' }, ⟨hrest, hpending, hinput⟩, rfl⟩
      | data bytes =>
        simp only
        split
        · have hmet : (d'.meet s c').1.pending = (d.meet s c).1.pending := hpending
          exact ih hmet hinput _
        · exact ⟨{ ((d'.meet s c').1.deliver bytes).2 with cues := rest' }, ⟨hrest, rfl, hinput⟩,
            rfl⟩

/-- A read gives the same from both devices, and they still give the same output behind it. -/
theorem read_sameOutput {d d' d₁ : Device} {s s₁ : Surroundings} {r : Read}
    (h : d.SameOutput d') (hr : d.read s = (r, d₁, s₁)) :
    ∃ e', d₁.SameOutput e' ∧ d'.read s = (r, e', s₁) := by
  have hread : ∃ e', (d.read s).2.1.SameOutput e' ∧
      d'.read s = ((d.read s).1, e', (d.read s).2.2) := by
    rw [read, read, h.pending]
    split
    · exact readCues_sameOutput h.cues h.pending h.input s
    · exact ⟨(d'.deliver d.pending).2, ⟨h.cues, rfl, h.input⟩, rfl⟩
  rwa [hr] at hread

/-! ## Devices that stay open -/

/-- The device is never closed, and no read of it fails. -/
def StaysOpen (d : Device) : Prop :=
  ∀ c ∈ d.cues, c.output ≠ .finished ∧ c.output ≠ .hungUp ∧ ∀ e, c.output ≠ .failure e

/-- The read has neither found the device closed nor failed. -/
def Read.FindsOpen (r : Read) : Prop := r ≠ .finished ∧ r ≠ .hungUp ∧ ∀ e, r ≠ .failure e

theorem Read.FindsOpen.not_closed {r : Read} (h : r.FindsOpen) : ¬r.Closed :=
  not_or.mpr ⟨h.1, h.2.1⟩

theorem deliver_findsOpen (d : Device) (bytes : List UInt8) :
    (d.deliver bytes).1.FindsOpen := by simp [deliver, Read.FindsOpen]

theorem readCues_staysOpen {cues : List Cue} (d : Device) (s : Surroundings)
    (h : ∀ c ∈ cues, c.output ≠ .finished ∧ c.output ≠ .hungUp ∧ ∀ e, c.output ≠ .failure e) :
    (readCues cues d s).2.1.StaysOpen ∧ (readCues cues d s).1.FindsOpen := by
  -- No cue that is met closes the device, and those behind are among the same cues.
  induction cues generalizing d s with
  | nil => exact ⟨h, by simp [readCues, Read.FindsOpen]⟩
  | cons c rest ih =>
    obtain ⟨⟨hfinished, hhungUp, hfailure⟩, hrest⟩ := List.forall_mem_cons.mp h
    rw [readCues]
    split
    · exact ⟨h, by simp [Read.FindsOpen]⟩
    · cases hout : c.output with
      | finished => exact absurd hout hfinished
      | hungUp => exact absurd hout hhungUp
      | failure e => exact absurd hout (hfailure e)
      | idle | interrupted => exact ⟨hrest, by simp [Read.FindsOpen]⟩
      | data bytes =>
        simp only
        split
        · exact ih _ _ hrest
        · exact ⟨hrest, deliver_findsOpen (d.meet s c).1 bytes⟩

theorem StaysOpen.read {d : Device} (h : d.StaysOpen) (s : Surroundings) :
    (d.read s).2.1.StaysOpen ∧ (d.read s).1.FindsOpen := by
  rw [Device.read]
  split
  · exact readCues_staysOpen d s h
  · exact ⟨h, deliver_findsOpen d d.pending⟩

/-- No call finds the device closed, and none fails. -/
theorem StaysOpen.calls {d d' : Device} {s s' : Surroundings} {calls : List Call}
    (h : d.StaysOpen) (hcalls : Calls d s calls d' s') :
    d'.StaysOpen ∧ ∀ c ∈ calls, c.gave.FindsOpen := by
  -- Each call is made on a device that is still open.
  induction hcalls with
  | none => exact ⟨h, List.forall_mem_nil _⟩
  | @read calls d' s' before ih =>
    obtain ⟨hopen, hfinds⟩ := ih.1.read s'
    exact ⟨hopen, List.forall_mem_append.mpr ⟨ih.2, List.forall_mem_singleton.mpr hfinds⟩⟩
  | pause duration before ih => exact ih
  | @write calls d' s' bytes before ih =>
    refine ⟨?_, ih.2⟩
    rw [StaysOpen, write_cues]
    exact ih.1
  | @flush calls d' s' before ih =>
    refine ⟨?_, ih.2⟩
    rw [StaysOpen, flush_cues]
    exact ih.1

end Device

namespace Session

/-! ## Reading the same -/

theorem gather_sameOutput {d d' : Device} (h : d.SameOutput d') (deadline : Nat)
    (got : List UInt8) (s : Surroundings) :
    ∃ e', (gather deadline got d s).2.1.SameOutput e' ∧
      gather deadline got d' s =
        ((gather deadline got d s).1, e', (gather deadline got d s).2.2) := by
  -- The two devices give the same read and stay alike behind it.
  fun_induction gather deadline got d s generalizing d' with
  | case1 got d s more d₁ s₁ hr ih | case2 got d s d₁ s₁ hr ih =>
    obtain ⟨e', hsame, hr'⟩ := Device.read_sameOutput h hr
    rw [gather_eq deadline _ d', hr']
    exact ih hsame
  | case3 got d s d₁ s₁ hr | case4 got d s d₁ s₁ hr | case5 got d s e d₁ s₁ hr =>
    obtain ⟨e', hsame, hr'⟩ := Device.read_sameOutput h hr
    rw [gather_eq deadline _ d', hr']
    exact ⟨e', hsame, rfl⟩
  | case6 got d s d₁ s₁ hr hw =>
    obtain ⟨e', hsame, hr'⟩ := Device.read_sameOutput h hr
    rw [gather_eq deadline _ d', hr']
    exact ⟨e', hsame, if_pos hw⟩
  | case7 got d s d₁ s₁ hr hw ih =>
    obtain ⟨e', hsame, hr'⟩ := Device.read_sameOutput h hr
    rw [gather_eq deadline _ d', hr']
    simp only [if_neg hw]
    exact ih hsame

/-- A session reads the same from a device that gives the same output. -/
theorem read_withDevice {s : Session} {d' : Device} (h : s.device.SameOutput d') (timeout : Nat) :
    ∃ e', (s.read timeout).2.device.SameOutput e' ∧
      ({ s with device := d' } : Session).read timeout =
        ((s.read timeout).1, { (s.read timeout).2 with device := e' }) := by
  obtain ⟨e', hsame, hgather⟩ := gather_sameOutput h (s.around.clock + timeout) [] s.around
  rw [read, read]
  simp only
  rw [hgather]
  generalize gather (s.around.clock + timeout) [] s.device s.around = x at hsame ⊢
  obtain ⟨e | ⟨bytes, finished⟩, d₁, s₁⟩ := x
  · exact ⟨e', hsame, rfl⟩
  · simp only
    split
    · exact ⟨e', hsame, rfl⟩
    · exact ⟨e', hsame, rfl⟩

end Session

end HistoryAudit
