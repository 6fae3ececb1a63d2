/-
  HistoryAudit.Proofs.Text.Lines

  Texts that are written one below the other, each with a line feed behind it,
  are the physical lines of the whole. The lines of any text are parts of it, and so
  are these when they are trimmed.
-/
import HistoryAudit.Text.Blank
import Mathlib.Data.List.Basic

namespace HistoryAudit.Text

theorem splitLineFeeds_append {line : List Char} (h : '\n' ∉ line) (rest : List Char) :
    splitLineFeeds (line ++ '\n' :: rest) = line :: splitLineFeeds rest := by
  induction line with
  | nil => rw [List.nil_append, splitLineFeeds, if_pos rfl]
  | cons c line ih =>
    rw [List.mem_cons, not_or] at h
    rw [List.cons_append, splitLineFeeds, if_neg (Ne.symm h.1), ih h.2]

theorem splitLineFeeds_flatMap {pieces : List (List Char)} (h : ∀ p ∈ pieces, '\n' ∉ p) :
    splitLineFeeds (pieces.flatMap (· ++ ['\n'])) = pieces ++ [[]] := by
  induction pieces with
  | nil => rfl
  | cons p pieces ih =>
    rw [List.forall_mem_cons] at h
    rw [List.flatMap_cons, List.append_assoc, List.singleton_append,
      splitLineFeeds_append h.1, ih h.2, List.cons_append]

theorem dropEmptyLast_concat (pieces : List (List Char)) :
    dropEmptyLast (pieces ++ [[]]) = pieces := by
  induction pieces with
  | nil => rfl
  | cons p pieces ih =>
    have hne : pieces ++ [[]] ≠ [] := by simp
    obtain ⟨q, qs, hq⟩ := List.exists_cons_of_ne_nil hne
    rw [List.cons_append, hq, dropEmptyLast, ← hq, ih]
    exact List.cons_ne_nil q qs

/-- Lines that are ended one by one are the lines of the text. -/
theorem lines_flatMap {pieces : List (List Char)} (h : ∀ p ∈ pieces, '\n' ∉ p) :
    lines (String.ofList (pieces.flatMap (· ++ ['\n']))) = pieces.map String.ofList := by
  rw [lines, String.toList_ofList, splitLineFeeds_flatMap h, dropEmptyLast_concat]

/-- The same of texts that are printed one after the other. -/
theorem lines_join {texts : List String} (h : ∀ t ∈ texts, '\n' ∉ t.toList) :
    lines (String.join (texts.map (· ++ "\n"))) = texts := by
  have hjoin : String.join (texts.map (· ++ "\n")) =
      String.ofList ((texts.map String.toList).flatMap (· ++ ['\n'])) := by
    rw [← String.toList_inj, String.toList_join, String.toList_ofList, List.flatMap_map,
      List.flatMap_map]
    exact congrArg texts.flatMap (funext fun t => String.toList_append)
  have hpieces : ∀ p ∈ texts.map String.toList, '\n' ∉ p := by
    rw [List.forall_mem_map]
    exact h
  rw [hjoin, lines_flatMap hpieces, List.map_map]
  exact (List.map_congr_left fun t _ => String.ofList_toList).trans (List.map_id texts)

/-- A text that has no blank at either end is trimmed already. -/
theorem trim_of_ends {first last : Char} {middle : List Char} (hfirst : isBlank first = false)
    (hlast : isBlank last = false) :
    trim (String.ofList (first :: middle ++ [last])) =
      String.ofList (first :: middle ++ [last]) := by
  have hstart : (first :: middle ++ [last]).dropWhile isBlank = first :: middle ++ [last] :=
    List.dropWhile_cons_of_neg (Bool.eq_false_iff.mp hfirst)
  have hend : dropBlankEnd (first :: middle ++ [last]) = first :: middle ++ [last] := by
    rw [dropBlankEnd, List.reverse_concat, List.dropWhile_cons_of_neg (Bool.eq_false_iff.mp hlast),
      ← List.reverse_concat, List.reverse_reverse]
  rw [trim, String.toList_ofList, hstart, hend]

theorem sublist_of_mem_splitLineFeeds {cs line : List Char} (h : line ∈ splitLineFeeds cs) :
    line.Sublist cs := by
  -- A line feed begins a new line; any other character belongs to the first one.
  induction cs generalizing line with
  | nil =>
    obtain rfl := List.mem_singleton.mp h
    exact List.Sublist.refl _
  | cons c cs ih =>
    rw [splitLineFeeds] at h
    split at h
    · rcases List.mem_cons.mp h with rfl | hrest
      · exact List.nil_sublist _
      · exact (ih hrest).cons c
    · split at h
      · obtain rfl := List.mem_singleton.mp h
        exact (List.nil_sublist cs).cons_cons c
      · rename_i first rest heq
        rw [heq] at ih
        rcases List.mem_cons.mp h with rfl | hrest
        · exact (ih List.mem_cons_self).cons_cons c
        · exact (ih (List.mem_cons_of_mem _ hrest)).cons c

theorem mem_of_mem_dropEmptyLast {lines : List (List Char)} {line : List Char}
    (h : line ∈ dropEmptyLast lines) : line ∈ lines := by
  induction lines with
  | nil => exact h
  | cons first rest ih =>
    cases rest with
    | nil =>
      rw [dropEmptyLast] at h
      split at h
      · cases h
      · exact h
    | cons second rest =>
      rw [dropEmptyLast] at h
      · rcases List.mem_cons.mp h with rfl | hrest
        · exact List.mem_cons_self
        · exact List.mem_cons_of_mem _ (ih hrest)
      · intro hnone
        cases hnone

/-- The lines of a text are parts of it. -/
theorem sublist_of_mem_lines {text line : String} (h : line ∈ lines text) :
    line.toList.Sublist text.toList := by
  obtain ⟨cs, hcs, rfl⟩ := List.mem_map.mp h
  rw [String.toList_ofList]
  exact sublist_of_mem_splitLineFeeds (mem_of_mem_dropEmptyLast hcs)

theorem trim_sublist (s : String) : (trim s).toList.Sublist s.toList := by
  rw [trim, String.toList_ofList, dropBlankEnd]
  refine (List.reverse_sublist.mpr (List.dropWhile_sublist _)).trans ?_
  rw [List.reverse_reverse]
  exact List.dropWhile_sublist _

end HistoryAudit.Text
