/-
  HistoryAudit.Proofs.Log.Printed

  A log that was printed: objects one below the other, each on a line of its own.
  They are the lines of the log (`numberedLines_printed`), so what is decoded is
  what each of them says (`printed_decoded`).
-/
import HistoryAudit.Proofs.Json.Printed
import HistoryAudit.Proofs.Log.Coalescing
import Mathlib.Data.List.Forall2

namespace HistoryAudit.Log

open Json

/-- The object `v`, printed on a line, is decoded as `r`. -/
def PrintsAs (v : Value) (r : Record) : Prop :=
  (∃ ms, v = .object ms) ∧ Record.parse v.text = .ok r

/-- Decoded lines one below the other. -/
def linesFrom (number : Nat) (rs : List Record) : List Decoded :=
  (rs.zipIdx number).map fun (r, n) => ⟨n, r⟩

theorem linesFrom_append (number : Nat) (rs rs' : List Record) :
    linesFrom number (rs ++ rs') = linesFrom number rs ++ linesFrom (number + rs.length) rs' := by
  rw [linesFrom, List.zipIdx_append, List.map_append]
  rfl

theorem linesFrom_cons (number : Nat) (r : Record) (rs : List Record) :
    linesFrom number (r :: rs) = ⟨number, r⟩ :: linesFrom (number + 1) rs := rfl

theorem record_of_mem_linesFrom {number : Nat} {rs : List Record} {d : Decoded}
    (h : d ∈ linesFrom number rs) : d.record ∈ rs := by
  obtain ⟨⟨r, n⟩, hr, rfl⟩ := List.mem_map.mp h
  exact List.fst_mem_of_mem_zipIdx hr

section Printed

variable {vs : List Value} {rs : List Record}

theorem printed_decoded (h : List.Forall₂ PrintsAs vs rs) (number : Nat) :
    ((vs.zipIdx number).map fun (v, n) => (n, v.text)).filterMap decoded? =
      linesFrom number rs := by
  induction h generalizing number with
  | nil => rfl
  | @cons v r vs rs hv _ ih =>
    have hd : decoded? (number, v.text) = some ⟨number, r⟩ := by
      rw [decoded?, hv.2]
      rfl
    rw [List.zipIdx_cons, List.map_cons, List.filterMap_cons_some hd, ih, linesFrom_cons]

theorem printed_not_rejected (h : List.Forall₂ PrintsAs vs rs) (number : Nat) :
    ((vs.zipIdx number).map fun (v, n) => (n, v.text)).filterMap rejected? = [] := by
  induction h generalizing number with
  | nil => rfl
  | @cons v r vs rs hv _ ih =>
    have hm : rejected? (number, v.text) = none := by rw [rejected?, hv.2]
    rw [List.zipIdx_cons, List.map_cons, List.filterMap_cons_none hm, ih]

/-- Objects that are printed line by line are the lines of the log. -/
theorem numberedLines_printed (h : List.Forall₂ PrintsAs vs rs) :
    numberedLines (String.ofList (vs.flatMap fun v => v.write ++ ['\n'])) =
      (vs.zipIdx 1).map fun (v, n) => (n, v.text) := by
  have hlines : Text.lines (String.ofList (vs.flatMap fun v => v.write ++ ['\n'])) =
      vs.map Value.text := by
    -- A printed object has no line feed inside.
    have hpieces : ∀ p ∈ vs.map Value.write, '\n' ∉ p := by
      rw [List.forall_mem_map]
      exact fun v _ => v.newline_not_mem_write
    have hsplit := Text.lines_flatMap hpieces
    rw [List.flatMap_map, List.map_map] at hsplit
    exact hsplit
  rw [numberedLines, hlines]
  clear hlines
  -- The number of the first line has to vary in the induction.
  generalize 1 = number
  induction h generalizing number with
  | nil => rfl
  | @cons v r vs rs hv _ ih =>
    obtain ⟨⟨ms, rfl⟩, -⟩ := hv
    have hrest := ih (number + 1)
    simp only [List.map_cons, List.zipIdx_cons, List.filterMap_cons, Value.trim_text_object,
      String.isEmpty_iff, Value.text_object_ne_empty, if_false] at hrest ⊢
    rw [hrest]

end Printed

end HistoryAudit.Log
