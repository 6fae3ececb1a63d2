/-
  HistoryAudit.Proofs.Json.Printed

  The compact text of a value stands on one line, and that of an object begins
  and ends with a brace. So an object that is printed on a line of its own is
  that line, trimmed or not.
-/
import HistoryAudit.Json.Printer
import HistoryAudit.Proofs.Text.Lines
import HistoryAudit.Proofs.Text.Unbroken

namespace HistoryAudit.Json

/-! ## One line -/

theorem Escape.newline_not_mem_encode (c : Char) : '\n' ∉ encode c := by
  have hdigit : ∀ k < 16, '\n' ≠ Nat.digitChar k := by decide
  rw [encode]
  split_ifs with _ _ _ _ hn _ _ _ _
  all_goals try decide
  all_goals simp only [List.mem_cons, List.not_mem_nil, or_false, not_or]
  · exact ⟨by decide, by decide, by decide, by decide, by decide, hdigit _ (by omega)⟩
  · exact ⟨by decide, by decide, by decide, by decide, by decide, hdigit _ (by omega)⟩
  · exact fun h => hn h.symm

theorem newline_not_mem_writeString (s : String) : '\n' ∉ writeString s := by
  have hencode : '\n' ∉ s.toList.flatMap Escape.encode := by
    rw [List.mem_flatMap]
    rintro ⟨c, -, hc⟩
    exact Escape.newline_not_mem_encode c hc
  rw [writeString]
  simp [hencode]

theorem Number.newline_not_mem_write (n : Number) : '\n' ∉ n.write := by
  cases n with
  | int n => exact (Text.unbroken_int n).1
  | float f => exact (Decimal.unbroken_text f).1

namespace Value

mutual

/-- No value has a line feed in its compact text. -/
theorem newline_not_mem_write : (v : Value) → '\n' ∉ v.write
  | .null => by simp [write]
  | .bool true => by simp [write]
  | .bool false => by simp [write]
  | .number n => by
    rw [write]
    exact n.newline_not_mem_write
  | .string s => by
    rw [write]
    exact newline_not_mem_writeString s
  | .array [] => by simp [write]
  | .array (v :: vs) => by
    simp [write, newline_not_mem_write v, newline_not_mem_writeItems vs]
  | .object [] => by simp [write]
  | .object (m :: ms) => by
    simp [write, newline_not_mem_writeString, newline_not_mem_write m.2,
      newline_not_mem_writeMembers ms]

theorem newline_not_mem_writeItems : (vs : List Value) → '\n' ∉ writeItems vs
  | [] => by simp [writeItems]
  | v :: vs => by
    simp [writeItems, newline_not_mem_write v, newline_not_mem_writeItems vs]

theorem newline_not_mem_writeMembers :
    (ms : List (String × Value)) → '\n' ∉ writeMembers ms
  | [] => by simp [writeMembers]
  | m :: ms => by
    simp [writeMembers, newline_not_mem_writeString, newline_not_mem_write m.2,
      newline_not_mem_writeMembers ms]

end

/-! ## The braces of an object -/

theorem writeMembers_concat (ms : List (String × Value)) :
    ∃ body, writeMembers ms = body ++ ['\x7d'] := by
  induction ms with
  | nil => exact ⟨[], by rw [writeMembers, List.nil_append]⟩
  | cons m ms ih =>
    obtain ⟨body, hbody⟩ := ih
    exact ⟨_, by rw [writeMembers, hbody, ← List.append_assoc]⟩

theorem write_object (ms : List (String × Value)) :
    ∃ body, (object ms).write = '\x7b' :: body ++ ['\x7d'] := by
  cases ms with
  | nil => exact ⟨[], by rw [write, List.cons_append, List.nil_append]⟩
  | cons m ms =>
    obtain ⟨body, hbody⟩ := writeMembers_concat ms
    refine ⟨writeString m.1 ++ ':' :: m.2.write ++ body, ?_⟩
    rw [write, hbody]
    simp only [List.cons_append, List.append_assoc]

/-- There is nothing to trim at an object. -/
theorem trim_text_object (ms : List (String × Value)) :
    Text.trim (object ms).text = (object ms).text := by
  obtain ⟨body, hbody⟩ := write_object ms
  rw [text, hbody]
  exact Text.trim_of_ends (by decide) (by decide)

theorem text_object_ne_empty (ms : List (String × Value)) : (object ms).text ≠ "" := by
  obtain ⟨body, hbody⟩ := write_object ms
  rw [text, hbody, ne_eq, ← String.toList_inj, String.toList_ofList]
  exact List.cons_ne_nil _ _

end Value

end HistoryAudit.Json
