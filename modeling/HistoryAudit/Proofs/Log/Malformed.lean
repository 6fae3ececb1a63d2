/-
  HistoryAudit.Proofs.Log.Malformed

  What a log is found to be malformed for: the lines that cannot be decoded, and
  the groups in which no line has a command. The latter are told by the `id` of
  the group, if it has one.
-/
import HistoryAudit.Proofs.Log.Coalescing

namespace HistoryAudit.Log

namespace Group

/-- The group has an entry, or else the note that its command is missing. -/
theorem finish_eq_error {g : Group} {m : Malformed} :
    g.pending.finish = .error m ↔
      g.entry? = none ∧ m = ⟨.malformedRecord, g.first.number, g.pending.incomplete⟩ := by
  have hcmd : g.pending.cmd? = lastValue? (·.cmd?) g.lines := by
    rw [pending, foldl_annotate]
    exact Option.or_none
  have hline : g.pending.line = g.first.number := by rw [pending, foldl_annotate]
  rw [Pending.finish, entry?, hcmd, hline]
  cases lastValue? (·.cmd?) g.lines with
  | none => simp [eq_comm]
  | some cmd => simp

theorem incomplete_pending (g : Group) :
    g.pending.incomplete =
      match g.first.record.id? with
      | some id => "history item " ++ id ++ " has no \"cmd\" field"
      | none => "record has no \"cmd\" field" := by
  cases hid : g.first.record.id? <;> simp only [Pending.incomplete, pending_id, hid]

end Group

variable {ls : List (Nat × String)} {b : Builder}

theorem entries_of_gathered (h : Gathered ls b) :
    b.finish.entries = (groups (ls.filterMap decoded?)).filterMap Group.entry? := by
  rw [Builder.finish, h.pending, List.map_map, List.filterMap_map]
  exact List.filterMap_congr fun g _ => g.finish_pending

/-- The note about a command that could not be finished. -/
def note? : Except Malformed Entry → Option Malformed
  | .error m => some m
  | .ok _ => none

theorem note?_eq_some {result : Except Malformed Entry} {m : Malformed} :
    note? result = some m ↔ result = .error m := by
  cases result <;> simp [note?]

theorem finish_malformed (b : Builder) :
    b.finish.malformed = (b.malformed ++
      (b.pending.map Pending.finish).filterMap note?).mergeSort (·.line ≤ ·.line) := rfl

theorem mem_malformed_of_gathered (h : Gathered ls b) {m : Malformed} :
    m ∈ b.finish.malformed ↔
      m ∈ ls.filterMap rejected? ∨
        ∃ g ∈ groups (ls.filterMap decoded?), g.pending.finish = .error m := by
  rw [finish_malformed, List.mem_mergeSort, List.mem_append, h.malformed, h.pending, List.map_map,
    List.filterMap_map]
  refine or_congr Iff.rfl ?_
  simp only [List.mem_filterMap, Function.comp_apply, note?_eq_some]

/-- What is malformed in a log: its lines that cannot be decoded, and its commands without a
text. -/
theorem mem_parse_malformed {text : String} {m : Malformed} :
    m ∈ (parse text).malformed ↔
      m ∈ (numberedLines text).filterMap rejected? ∨
        ∃ g ∈ groups (decodedLines text), g.entry? = none ∧
          m = ⟨.malformedRecord, g.first.number, g.pending.incomplete⟩ := by
  rw [parse, mem_malformed_of_gathered (gathered_foldl _), decodedLines_eq]
  simp only [Group.finish_eq_error]

end HistoryAudit.Log
