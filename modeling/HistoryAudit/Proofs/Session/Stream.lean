/-
  HistoryAudit.Proofs.Session.Stream

  The byte stream that a device has still to give, however its script cuts it:
  into cues, into reads of limited size, with idle and interrupted reads in
  between. A read takes what it brings from the front of the stream
  (`read_upcoming`).
-/
import HistoryAudit.Session.Basic
import Mathlib.Data.List.Basic

namespace HistoryAudit

namespace Device

/-- What the shell writes by its cues, up to the end of the device. -/
def outputs : List Cue → List UInt8
  | [] => []
  | c :: rest =>
    match c.output with
    | .data bytes => bytes ++ outputs rest
    | .finished | .hungUp => []
    | .idle | .interrupted | .failure _ => outputs rest

/-- All bytes that reads can still give. -/
def upcoming (d : Device) : List UInt8 := d.pending ++ outputs d.cues

/-- The bytes that a read gives. -/
def Read.bytes : Read → List UInt8
  | .data bytes => bytes
  | _ => []

theorem Read.bytes_ofError (e : SystemError) : (Read.ofError e).bytes = [] := by
  unfold Read.ofError
  split_ifs <;> rfl

/-- Data is given in pieces of limited size; the rest stays for the next reads. -/
theorem deliver_upcoming (d : Device) (bytes : List UInt8) :
    (d.deliver bytes).1.bytes ++ (d.deliver bytes).2.upcoming = bytes ++ outputs d.cues := by
  rw [deliver, Read.bytes, upcoming, ← List.append_assoc, List.take_append_drop]

/-- Without data left from the last cue, the stream is what the cues write. -/
theorem upcoming_of_pending {d : Device} (h : d.pending = []) (cues : List Cue) :
    ({ d with cues } : Device).upcoming = outputs cues := by
  rw [upcoming, h, List.nil_append]

theorem readCues_upcoming (cues : List Cue) (d : Device) (s : Surroundings)
    (h : d.pending = []) :
    (readCues cues d s).1.bytes ++ (readCues cues d s).2.1.upcoming = outputs cues := by
  -- What a cue brings is what it takes from the output to come.
  induction cues generalizing d s with
  | nil => exact upcoming_of_pending h []
  | cons c rest ih =>
    have hp : (d.meet s c).1.pending = [] := (meet_pending d s c).trans h
    unfold readCues
    split
    · exact upcoming_of_pending h (c :: rest)
    · cases ho : c.output with
      | finished => exact upcoming_of_pending h (c :: rest)
      | hungUp => exact upcoming_of_pending h (c :: rest)
      | idle =>
        simp only [outputs, ho]
        exact upcoming_of_pending hp rest
      | interrupted =>
        simp only [outputs, ho]
        exact upcoming_of_pending hp rest
      | failure e =>
        simp only [outputs, ho]
        rw [Read.bytes_ofError, upcoming_of_pending hp, List.nil_append]
      | data bytes =>
        simp only [outputs, ho]
        split
        · rename_i hb
          rw [ih _ _ hp, List.isEmpty_iff.mp hb, List.nil_append]
        · exact deliver_upcoming { (d.meet s c).1 with cues := rest } bytes

/-- A read takes what it gives from the front of the stream. -/
theorem read_upcoming (d : Device) (s : Surroundings) :
    (d.read s).1.bytes ++ (d.read s).2.1.upcoming = d.upcoming := by
  unfold read
  split
  · rename_i h
    have h : d.pending = [] := List.isEmpty_iff.mp h
    rw [readCues_upcoming d.cues d s h, upcoming, h, List.nil_append]
  · exact deliver_upcoming d d.pending

end Device

end HistoryAudit
