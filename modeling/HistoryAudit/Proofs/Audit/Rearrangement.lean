/-
  HistoryAudit.Proofs.Audit.Rearrangement

  The verdicts do not see in which order the commands of a log were written, nor
  how their lines were mixed: a property asks how many entries there are, and
  what some or all of them say (`Property.holds_congr`). So logs whose lines are in
  another order get the same verdicts (`verdicts_rearranged`).
-/
import HistoryAudit.Proofs.Audit.Verdicts
import HistoryAudit.Proofs.Log.Rearrangement

namespace HistoryAudit.Audit

open Log (Entry Rearranged decodedLines)

/-! ## Entries in another order -/

/-- The same entries, in whatever order, but for the numbers of their lines. -/
def SameEntries (es es' : List Entry) : Prop :=
  (es.map Entry.unnumbered).Perm (es'.map Entry.unnumbered)

section Entries

variable {es es' : List Entry} {q : Entry → Prop}

theorem SameEntries.length_eq (h : SameEntries es es') : es.length = es'.length := by
  have hlength := List.Perm.length_eq h
  rwa [List.length_map, List.length_map] at hlength

/-- Some entry is of a kind that does not depend on the number of its line iff one in the other
order is. -/
theorem SameEntries.exists_iff (h : SameEntries es es') (hq : ∀ e, q e.unnumbered ↔ q e) :
    (∃ e ∈ es, q e) ↔ ∃ e ∈ es', q e := by
  have hmap : ∀ es : List Entry, (∃ e ∈ es, q e) ↔ ∃ e ∈ es.map Entry.unnumbered, q e := by
    intro es
    constructor
    · rintro ⟨e, he, hqe⟩
      exact ⟨e.unnumbered, List.mem_map_of_mem he, (hq e).mpr hqe⟩
    · rintro ⟨_, hmem, hqe⟩
      obtain ⟨e, he, rfl⟩ := List.mem_map.mp hmem
      exact ⟨e, he, (hq e).mp hqe⟩
  rw [hmap es, hmap es']
  exact exists_congr fun e => and_congr_left fun _ => List.Perm.mem_iff h

theorem SameEntries.forall_iff (h : SameEntries es es') (hq : ∀ e, q e.unnumbered ↔ q e) :
    (∀ e ∈ es, q e) ↔ ∀ e ∈ es', q e := by
  have hnone : (¬∃ e ∈ es, ¬q e) ↔ ¬∃ e ∈ es', ¬q e :=
    not_congr (h.exists_iff fun e => not_congr (hq e))
  simpa only [not_exists, not_and, not_not] using hnone

/-- No property sees the order of the entries, or on which lines they stand. -/
theorem Property.holds_congr (h : SameEntries es es') (t : Thresholds) (p : Property) :
    p.Holds t es ↔ p.Holds t es' := by
  have hblock : (∃ e ∈ es, IsBlock t e) ↔ ∃ e ∈ es', IsBlock t e :=
    h.exists_iff fun _ => Iff.rfl
  have hconforming :
      (∃ e ∈ es, IsBlock t e ∧ Conforming e) ↔ ∃ e ∈ es', IsBlock t e ∧ Conforming e :=
    h.exists_iff fun _ => Iff.rfl
  -- Each property counts the entries or quantifies over them.
  cases p with
  | minEntries => rw [Holds, Holds, h.length_eq]
  | exitZero => exact h.exists_iff fun _ => Iff.rfl
  | exitFailure => exact and_congr_right fun _ => h.exists_iff fun _ => Iff.rfl
  | universalDuration => exact h.forall_iff fun _ => Iff.rfl
  | blockWithoutExit =>
    exact and_congr hblock (or_congr hconforming (h.forall_iff fun _ => Iff.rfl))
  | blockWithDuration =>
    exact and_congr hblock (or_congr hconforming (h.forall_iff fun _ => Iff.rfl))

end Entries

/-! ## Logs in another order -/

/-- Two logs whose lines, as far as they can be decoded, are the same but for their order, which is
the same among those with the same `id`: they have as many entries, and each property gets the same
verdict, whatever is asked of them. -/
theorem verdicts_rearranged {text text' : String}
    (h : Rearranged ((decodedLines text).map Log.Decoded.unnumbered)
      ((decodedLines text').map Log.Decoded.unnumbered)) :
    (Log.parse text).entries.length = (Log.parse text').entries.length ∧
      ∀ t : Thresholds,
        (check (Log.parse text).entries t).map (fun f => (f.property, f.passed)) =
          (check (Log.parse text').entries t).map (fun f => (f.property, f.passed)) := by
  have hsame : SameEntries (Log.parse text).entries (Log.parse text').entries :=
    Log.parse_entries_rearranged h
  refine ⟨hsame.length_eq, ?_⟩
  intro t
  have hverdicts : (check (Log.parse text).entries t).map Finding.verdict =
      (check (Log.parse text').entries t).map Finding.verdict := by
    rw [check_verdicts, check_verdicts]
    apply List.map_congr_left
    intro p _
    rw [decide_eq_decide.mpr (Property.holds_congr hsame t p)]
  exact hverdicts

/-! ## A log with an annotation -/

namespace Annotated

/-- The first line of a command. -/
def first : String := "\x7b\"id\":\"a\",\"cmd\":\"x\",\"exit\":2\x7d"

/-- A later line of the same command, which has another exit code. -/
def second : String := "\x7b\"id\":\"a\",\"exit\":0,\"dur\":1\x7d"

def block : String := "\x7b\"id\":\"b\",\"cmd\":\"begin; end\",\"dur\":1\x7d"

def alone : String := "\x7b\"cmd\":\"z\"\x7d"

end Annotated

open Annotated in
/-- The two lines of a command stand apart in one log and side by side in the other; a bad line and
an empty one make no difference. -/
theorem verdicts_rearranged_of_mixed_lines :
    let text := "\n".intercalate [first, block, "bad", second, alone]
    let text' := "\n".intercalate [alone, "", block, first, second]
    Rearranged ((decodedLines text).map Log.Decoded.unnumbered)
        ((decodedLines text').map Log.Decoded.unnumbered) ∧
      (Log.parse text).entries.length = (Log.parse text').entries.length ∧
      ∀ t : Thresholds,
        (check (Log.parse text).entries t).map (fun f => (f.property, f.passed)) =
          (check (Log.parse text').entries t).map (fun f => (f.property, f.passed)) := by
  intro text text'
  have hlines : (Log.numberedLines text).map (·.2) = [first, block, "bad", second, alone] := by
    decide +kernel
  have hlines' : (Log.numberedLines text').map (·.2) = [alone, block, first, second] := by
    decide +kernel
  have hread : ∀ line id?, (Log.decoded? (0, line)).map (·.record.id?) = some id? →
      ∃ d, Log.decoded? (0, line) = some d ∧ d.record.id? = id? :=
    fun _ _ hid => Option.map_eq_some_iff.mp hid
  obtain ⟨a, ha, hida⟩ := hread first (some "a") (by decide +kernel)
  obtain ⟨b, hb, hidb⟩ := hread block (some "b") (by decide +kernel)
  obtain ⟨c, hc, hidc⟩ := hread second (some "a") (by decide +kernel)
  obtain ⟨d, hd, hidd⟩ := hread alone none (by decide +kernel)
  have hbad : Log.decoded? (0, "bad") = none := Option.isNone_iff_eq_none.mp (by decide +kernel)
  have h : Rearranged ((decodedLines text).map Log.Decoded.unnumbered)
      ((decodedLines text').map Log.Decoded.unnumbered) := by
    rw [Log.decodedLines_unnumbered, Log.decodedLines_unnumbered, hlines, hlines']
    simp only [List.filterMap_cons, ha, hb, hc, hd, hbad, List.filterMap_nil]
    refine ⟨?_, ?_⟩
    · exact (List.perm_append_singleton d [a, b, c]).trans ((List.Perm.swap b a [c]).cons d)
    · intro id
      by_cases hfirst : "a" = id
      · subst hfirst
        simp [List.filter, Log.Decoded.hasId, hida, hidb, hidc, hidd]
      · simp [List.filter, Log.Decoded.hasId, hida, hidb, hidc, hidd, hfirst]
  exact ⟨h, verdicts_rearranged h⟩

end HistoryAudit.Audit
