/-
  HistoryAudit.Proofs.Session.Kept

  What is kept by each read of a device and by each pause is kept by a session
  that reads (`Kept.sessionRead`). So the input of a shell, to which reads add
  nothing, is changed by writes alone, and a write adds what it took.
-/
import HistoryAudit.Proofs.Session.Calls

namespace HistoryAudit

namespace Session

/-- Reads and pauses keep this of a device and its surroundings. -/
structure Kept (P : Device → Surroundings → Prop) : Prop where
  read : ∀ {d s}, P d s → P (d.read s).2.1 (d.read s).2.2
  pause : ∀ {d s} (duration : Nat), P d s → P d (s.pause duration)

namespace Kept

variable {P : Device → Surroundings → Prop}

theorem moves {d d' : Device} {s s' : Surroundings} {moves : List Device.Move} (hP : Kept P)
    (h : Device.Moves d s moves d' s') (hs : P d s) : P d' s' := by
  induction h with
  | none => exact hs
  | call before ih => exact hP.read ih
  | pause duration before ih => exact hP.pause duration ih

theorem sessionRead {s : Session} (hP : Kept P) (timeout : Nat) (h : P s.device s.around) :
    P (s.read timeout).2.device (s.read timeout).2.around := by
  obtain ⟨moves, got, d, around, last, hunder, hread, -⟩ := s.read_underway timeout
  exact hP.moves (hunder.made.of_read hread) h

end Kept

end Session

/-! ## The input of the shell -/

namespace Device

theorem meet_input (d : Device) (s : Surroundings) (c : Cue) : (d.meet s c).1.input = d.input := rfl

theorem readCues_input (cues : List Cue) (d : Device) (s : Surroundings) :
    (readCues cues d s).2.1.input = d.input := by
  induction cues generalizing d s with
  | nil => rfl
  | cons c rest ih =>
    unfold readCues
    split
    · rfl
    · cases c.output with
      | data bytes =>
        simp only
        split
        · rw [ih, meet_input]
        · rfl
      | _ => rfl

/-- A read adds nothing to the input. -/
theorem read_input (d : Device) (s : Surroundings) : (d.read s).2.1.input = d.input := by
  unfold read
  split
  · exact readCues_input d.cues d s
  · rfl

theorem kept_input (bytes : List UInt8) : Session.Kept fun d _ => d.input = bytes where
  read h := (read_input _ _).trans h
  pause _ h := h

/-- Passing on what was written adds nothing to the input. -/
theorem flush_input (d : Device) : d.flush.2.input = d.input := by
  unfold flush
  simp only
  split <;> rfl

/-- A call that writes adds what it took. -/
theorem writeOnce_ok {d d' : Device} {bytes : List UInt8} {n : Nat}
    (h : d.writeOnce bytes = (.ok n, d')) : d'.input = d.input ++ bytes.take n := by
  unfold writeOnce at h
  split at h
  · cases h
  · cases h
    rw [List.length_take, ← List.take_eq_take_min]

theorem writeOnce_error {d d' : Device} {bytes : List UInt8} {e : SystemError}
    (h : d.writeOnce bytes = (.error e, d')) : d'.input = d.input := by
  unfold writeOnce at h
  split at h
  · cases h
    rfl
  · cases h

end Device

theorem Session.read_input (s : Session) (timeout : Nat) :
    (s.read timeout).2.device.input = s.device.input :=
  (Device.kept_input s.device.input).sessionRead timeout rfl

end HistoryAudit
