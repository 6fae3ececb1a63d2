/-
  HistoryAudit.Proofs.Log.Accounting

  What becomes of the lines of a log. A line that is not blank is rejected, or it
  is a line of just one group (`groups_lines_perm`), and a group gives an entry or
  a note. So the numbers that entries and notes carry are numbers of different
  lines (`told_subperm`): they increase, none is told twice, and there are no more
  of them than lines (`parse_accounts`).
-/
import HistoryAudit.Proofs.Log.Contiguous
import HistoryAudit.Proofs.Log.Malformed
import Mathlib.Data.List.Nodup
import Mathlib.Data.List.Pairwise
import Mathlib.Data.List.Perm.Subperm

namespace HistoryAudit.Log

variable {ds : List Decoded} {text : String}

/-! ## Physical lines -/

/-- A physical line that is not blank: its number, and its text without the blanks around it. -/
def IsLine (text : String) (number : Nat) (trimmed : String) : Prop :=
  ∃ i line, number = i + 1 ∧ (Text.lines text)[i]? = some line ∧
    (Text.trim line).isEmpty = false ∧ trimmed = Text.trim line

theorem numberedLines_eq (text : String) :
    numberedLines text =
      (((Text.lines text).zipIdx 1).filter fun l => !(Text.trim l.1).isEmpty).map
        fun l => (l.2, Text.trim l.1) := by
  rw [numberedLines, ← List.filterMap_eq_map, List.filterMap_filter]
  refine List.filterMap_congr fun l _ => ?_
  cases hblank : (Text.trim l.1).isEmpty <;> simp [hblank]

theorem mem_numberedLines {n : Nat} {line : String} :
    (n, line) ∈ numberedLines text ↔ IsLine text n line := by
  rw [numberedLines_eq, List.mem_map]
  constructor
  · rintro ⟨⟨line, number⟩, hmem, hline⟩
    obtain ⟨hzip, hblank⟩ := List.mem_filter.mp hmem
    obtain ⟨hpos, hget⟩ := List.mk_mem_zipIdx_iff_le_and_getElem?_sub.mp hzip
    cases hline
    exact ⟨number - 1, line, by omega, hget, by simpa using hblank, rfl⟩
  · rintro ⟨i, line, rfl, hget, hblank, rfl⟩
    have hzip : (line, i + 1) ∈ (Text.lines text).zipIdx 1 :=
      List.mk_mem_zipIdx_iff_le_and_getElem?_sub.mpr ⟨by omega, hget⟩
    exact ⟨(line, i + 1), List.mem_filter.mpr ⟨hzip, by simp [hblank]⟩, rfl⟩

/-- A number is that of one line. -/
theorem IsLine.eq {n : Nat} {line line' : String} (h : IsLine text n line)
    (h' : IsLine text n line') : line = line' := by
  obtain ⟨i, l, hi, hget, -, rfl⟩ := h
  obtain ⟨i', l', hi', hget', -, rfl⟩ := h'
  obtain rfl : i = i' := by omega
  rw [hget] at hget'
  cases hget'
  rfl

theorem numberedLines_ascending (text : String) :
    (numberedLines text).Pairwise fun a b => a.1 < b.1 := by
  have hnumbers : ((Text.lines text).zipIdx 1).Pairwise fun a b => a.2 < b.2 := by
    rw [← List.pairwise_map (f := Prod.snd), List.zipIdx_map_snd]
    exact List.pairwise_lt_range'
  rw [numberedLines_eq, List.pairwise_map]
  exact hnumbers.sublist List.filter_sublist

theorem length_numberedLines (text : String) :
    (numberedLines text).length =
      ((Text.lines text).filter fun line => !(Text.trim line).isEmpty).length := by
  have htexts : ((Text.lines text).zipIdx 1).map Prod.fst = Text.lines text :=
    List.zipIdx_map_fst 1 (Text.lines text)
  conv_rhs => rw [← htexts, List.filter_map, List.length_map]
  rw [numberedLines_eq, List.length_map]
  rfl

/-- Every line is decoded or rejected. -/
theorem numbers_perm (ls : List (Nat × String)) :
    ((ls.filterMap decoded?).map (·.number) ++ (ls.filterMap rejected?).map (·.line)).Perm
      (ls.map (·.1)) := by
  induction ls with
  | nil => exact .refl _
  | cons l ls ih =>
    -- The line is decoded or rejected, never both.
    cases hparse : Record.parse l.2 with
    | ok r =>
      have hd : decoded? l = some ⟨l.1, r⟩ := by
        rw [decoded?, hparse]
        rfl
      have hr : rejected? l = none := by rw [rejected?, hparse]
      rw [List.filterMap_cons_some hd, List.filterMap_cons_none hr]
      exact ih.cons l.1
    | error fault =>
      have hd : decoded? l = none := by
        rw [decoded?, hparse]
        rfl
      have hr : rejected? l = some (undecodable l.1 l.2 fault) := by rw [rejected?, hparse]
      rw [List.filterMap_cons_none hd, List.filterMap_cons_some hr]
      exact List.perm_middle.trans (ih.cons l.1)

/-! ## Groups -/

/-- The lines of a group join the lines that its first one joins. -/
theorem joins_of_mem_lines {g : Group} {d : Decoded} (hg : g ∈ groups ds) (hd : d ∈ g.lines)
    (a : Decoded) : a.joins d = a.joins g.first := by
  induction ds with
  | nil => cases hg
  | cons b ds ih =>
    rw [groups, List.mem_cons] at hg
    rcases hg with rfl | hg
    · rcases List.mem_cons.mp hd with rfl | hd
      · rfl
      · have hjoins : b.joins d = true := (List.mem_filter.mp hd).2
        rw [Bool.eq_iff_iff]
        exact ⟨fun had => Decoded.joins_trans had (Decoded.joins_symm hjoins),
          fun hab => Decoded.joins_trans hab hjoins⟩
    · exact ih (List.mem_filter.mp hg).1

/-- If `a` joins all lines of a group or none, then the groups that it leaves have the lines that it
leaves. -/
theorem lines_of_left {a : Decoded} {gs : List Group}
    (h : ∀ g ∈ gs, ∀ d ∈ g.lines, a.joins d = a.joins g.first) :
    (gs.filter (!a.joins ·.first)).flatMap Group.lines =
      (gs.flatMap Group.lines).filter (!a.joins ·) := by
  induction gs with
  | nil => rfl
  | cons g gs ih =>
    obtain ⟨hg, hgs⟩ := List.forall_mem_cons.mp h
    rw [List.flatMap_cons, List.filter_append, ← ih hgs, List.filter_cons]
    -- A group goes with all its lines or stays with all of them.
    cases hfirst : a.joins g.first with
    | true =>
      have hnone : g.lines.filter (!a.joins ·) = [] := by
        rw [List.filter_eq_nil_iff]
        intro d hd
        simp [hg d hd, hfirst]
      rw [hnone, List.nil_append]
      rfl
    | false =>
      have hall : g.lines.filter (!a.joins ·) = g.lines := by
        rw [List.filter_eq_self]
        intro d hd
        simp [hg d hd, hfirst]
      rw [hall]
      rfl

/-- Every line is a line of one group. -/
theorem groups_lines_perm (ds : List Decoded) : ((groups ds).flatMap Group.lines).Perm ds := by
  induction ds with
  | nil => exact .refl _
  | cons a ds ih =>
    have hleft : ((groups ds).filter (!a.joins ·.first)).flatMap Group.lines =
        ((groups ds).flatMap Group.lines).filter (!a.joins ·) :=
      lines_of_left fun g hg d hd => joins_of_mem_lines hg hd a
    have hrest : (ds.filter a.joins ++ ((groups ds).flatMap Group.lines).filter (!a.joins ·)).Perm
        (ds.filter a.joins ++ ds.filter (!a.joins ·)) := (ih.filter _).append_left _
    rw [groups, List.flatMap_cons, hleft, Group.lines, List.cons_append]
    exact (hrest.trans (List.filter_append_perm a.joins ds)).cons a

/-- The lines of a group stand in the order of the lines. -/
theorem lines_sublist {g : Group} (hg : g ∈ groups ds) : g.lines.Sublist ds := by
  induction ds with
  | nil => cases hg
  | cons a ds ih =>
    rw [groups, List.mem_cons] at hg
    rcases hg with rfl | hg
    · exact List.filter_sublist.cons_cons a
    · exact (ih (List.mem_filter.mp hg).1).cons a

/-- The first lines of the groups stand in the order of the lines. -/
theorem firsts_sublist (ds : List Decoded) : ((groups ds).map (·.first)).Sublist ds := by
  induction ds with
  | nil => exact .refl _
  | cons a ds ih =>
    rw [groups, List.map_cons]
    exact (((List.filter_sublist (l := groups ds)).map _).trans ih).cons_cons a

namespace Group

/-- The note that no line of the group has a command. -/
def note (g : Group) : Malformed := ⟨.malformedRecord, g.first.number, g.pending.incomplete⟩

theorem line_of_entry? {g : Group} {e : Entry} (h : g.entry? = some e) :
    e.line = g.first.number := by
  obtain ⟨cmd, -, rfl⟩ := Option.map_eq_some_iff.mp h
  rfl

/-- A group gives no entry iff no line of it has a command. -/
theorem entry?_eq_none_iff {g : Group} :
    g.entry? = none ↔ ∀ d ∈ g.lines, d.record.cmd? = none := by
  have hcmd : g.entry? = none ↔ lastValue? (·.cmd?) g.lines = none := Option.map_eq_none_iff
  rw [hcmd, lastValue?, List.getLast?_eq_none_iff, List.filterMap_eq_nil_iff]

/-- Groups give an entry or a note each. -/
theorem told_perm (gs : List Group) :
    ((gs.filterMap entry?).map (·.line) ++
        ((gs.map fun g => g.pending.finish).filterMap note?).map (·.line)).Perm
      (gs.map (·.first.number)) := by
  induction gs with
  | nil => exact .refl _
  | cons g gs ih =>
    rw [List.map_cons]
    -- A group without an entry has a note in its place.
    cases hentry : g.entry? with
    | none =>
      have hnote : note? g.pending.finish = some g.note :=
        note?_eq_some.mpr (finish_eq_error.mpr ⟨hentry, rfl⟩)
      rw [List.filterMap_cons_none hentry, List.filterMap_cons_some hnote]
      exact List.perm_middle.trans (ih.cons _)
    | some e =>
      have hnote : note? g.pending.finish = none := by
        rw [Option.eq_none_iff_forall_ne_some]
        intro m hm
        have hnone := (finish_eq_error.mp (note?_eq_some.mp hm)).1
        rw [hentry] at hnone
        cases hnone
      rw [List.filterMap_cons_some hentry, List.filterMap_cons_none hnote, List.map_cons,
        line_of_entry? hentry]
      exact ih.cons _

end Group

/-! ## The whole log -/

theorem decodedLines_ascending (text : String) :
    (decodedLines text).Pairwise fun a b => a.number < b.number := by
  rw [decodedLines_eq]
  refine (numberedLines_ascending text).filterMap _ ?_
  intro l l' hlt d hd d' hd'
  obtain ⟨r, -, rfl⟩ := Option.map_eq_some_iff.mp hd
  obtain ⟨r', -, rfl⟩ := Option.map_eq_some_iff.mp hd'
  exact hlt

theorem mem_decodedLines {d : Decoded} :
    d ∈ decodedLines text ↔
      ∃ line, IsLine text d.number line ∧ Record.parse line = .ok d.record := by
  rw [decodedLines_eq, List.mem_filterMap]
  constructor
  · rintro ⟨⟨n, line⟩, hmem, hdecoded⟩
    obtain ⟨record, hparse, rfl⟩ := Option.map_eq_some_iff.mp hdecoded
    refine ⟨line, mem_numberedLines.mp hmem, ?_⟩
    cases hrecord : Record.parse line with
    | error fault => rw [hrecord] at hparse; cases hparse
    | ok r => rw [hrecord] at hparse; cases hparse; rfl
  · rintro ⟨line, hline, hparse⟩
    refine ⟨(d.number, line), mem_numberedLines.mpr hline, ?_⟩
    rw [decoded?, hparse]
    rfl

/-- The lines of a group are lines of the text that can be decoded. -/
theorem line_of_mem_lines {g : Group} {d : Decoded} (hg : g ∈ groups (decodedLines text))
    (hd : d ∈ g.lines) : ∃ line, IsLine text d.number line ∧ Record.parse line = .ok d.record :=
  mem_decodedLines.mp ((lines_sublist hg).mem hd)

/-- A line is a line of one group only. -/
theorem group_eq_of_mem_lines {g g' : Group} {d : Decoded} (hg : g ∈ groups (decodedLines text))
    (hg' : g' ∈ groups (decodedLines text)) (hd : d ∈ g.lines) (hd' : d ∈ g'.lines) : g = g' := by
  have hnodup : ((groups (decodedLines text)).flatMap Group.lines).Nodup := by
    rw [(groups_lines_perm _).nodup_iff]
    refine (decodedLines_ascending text).imp ?_
    rintro a b hlt rfl
    exact Nat.lt_irrefl _ hlt
  have hsymm : Std.Symm (Function.onFun List.Disjoint Group.lines) :=
    ⟨fun _ _ hdisjoint d hd hd' => hdisjoint hd' hd⟩
  by_contra hne
  exact (List.nodup_flatMap.mp hnodup).2.forall hg hg' hne hd hd'

/-- The notes of a log, in some order. -/
theorem parse_malformed_perm (text : String) :
    (parse text).malformed.Perm ((numberedLines text).filterMap rejected? ++
      ((groups (decodedLines text)).map fun g => g.pending.finish).filterMap note?) := by
  have h := gathered_foldl (numberedLines text)
  rw [parse, finish_malformed, h.malformed, h.pending, ← decodedLines_eq, List.map_map]
  exact List.mergeSort_perm _ _

/-- The entries and the notes carry numbers of different lines. -/
theorem told_subperm (text : String) :
    ((parse text).entries.map (·.line) ++ (parse text).malformed.map (·.line)).Subperm
      ((numberedLines text).map (·.1)) := by
  have hentries : (parse text).entries =
      (groups (decodedLines text)).filterMap Group.entry? := by
    rw [parse, entries_of_gathered (gathered_foldl _), decodedLines_eq]
  have hnotes : ((parse text).malformed.map (·.line)).Perm
      ((((groups (decodedLines text)).map fun g => g.pending.finish).filterMap note?).map
          (·.line) ++
        ((numberedLines text).filterMap rejected?).map (·.line)) := by
    have hperm := (parse_malformed_perm text).map (·.line)
    rw [List.map_append] at hperm
    exact hperm.trans List.perm_append_comm
  -- An entry or a note of a group carries the number of its first line, a decoded one.
  have hfirsts : ((groups (decodedLines text)).map (·.first.number)).Sublist
      ((decodedLines text).map (·.number)) := by
    have hsub := (firsts_sublist (decodedLines text)).map (·.number)
    rwa [List.map_map] at hsub
  have hnumbers := numbers_perm (numberedLines text)
  rw [← decodedLines_eq] at hnumbers
  have hgroups := (Group.told_perm (groups (decodedLines text))).subperm.trans hfirsts.subperm
  rw [hentries]
  refine (hnotes.append_left _).subperm.trans ?_
  rw [← List.append_assoc]
  exact (hgroups.append (.refl _)).trans hnumbers.subperm

/-- All lines are counted that are not blank. -/
theorem parse_lines (text : String) :
    (parse text).lines =
      ((Text.lines text).filter fun line => !(Text.trim line).isEmpty).length := by
  rw [← length_numberedLines]
  exact (gathered_foldl (numberedLines text)).lines

theorem mem_rejected {m : Malformed} :
    m ∈ (numberedLines text).filterMap rejected? ↔
      ∃ n line fault, IsLine text n line ∧ Record.parse line = .error fault ∧
        m = undecodable n line fault := by
  rw [List.mem_filterMap]
  constructor
  · rintro ⟨⟨n, line⟩, hmem, hrejected⟩
    -- A line that is decoded is not among the rejected ones.
    cases hparse : Record.parse line with
    | ok record =>
      rw [rejected?, hparse] at hrejected
      cases hrejected
    | error fault =>
      rw [rejected?, hparse] at hrejected
      cases hrejected
      exact ⟨n, line, fault, mem_numberedLines.mp hmem, hparse, rfl⟩
  · rintro ⟨n, line, fault, hline, hparse, rfl⟩
    exact ⟨(n, line), mem_numberedLines.mpr hline, by rw [rejected?, hparse]⟩

/-- No number is told twice. -/
theorem told_nodup (text : String) :
    ((parse text).entries.map (·.line) ++ (parse text).malformed.map (·.line)).Nodup := by
  have hnumbers : ((numberedLines text).map (·.1)).Nodup := by
    rw [List.nodup_iff_pairwise_ne, List.pairwise_map]
    exact (numberedLines_ascending text).imp Nat.ne_of_lt
  obtain ⟨ns, hperm, hsub⟩ := told_subperm text
  exact hperm.nodup_iff.mp (hnumbers.sublist hsub)

/-- Entries stand in the order of the first lines of their groups. -/
theorem entries_ascending (text : String) :
    (parse text).entries.Pairwise (·.line < ·.line) := by
  have hfirsts : (groups (decodedLines text)).Pairwise (·.first.number < ·.first.number) := by
    have hdecoded := (decodedLines_ascending text).sublist (firsts_sublist _)
    rwa [List.pairwise_map] at hdecoded
  rw [parse, entries_of_gathered (gathered_foldl _), ← decodedLines_eq]
  refine hfirsts.filterMap _ ?_
  intro g g' hlt e he e' he'
  rwa [Group.line_of_entry? he, Group.line_of_entry? he']

/-- Notes are sorted by their numbers, and these are different. -/
theorem malformed_ascending (text : String) :
    (parse text).malformed.Pairwise (·.line < ·.line) := by
  have hsorted : (parse text).malformed.Pairwise (·.line ≤ ·.line) := by
    rw [parse, finish_malformed]
    refine (List.pairwise_mergeSort ?_ ?_ _).imp of_decide_eq_true
    · intro a b c hab hbc
      rw [decide_eq_true_eq] at hab hbc ⊢
      omega
    · intro a b
      simpa using Nat.le_total a.line b.line
  have hdistinct : (parse text).malformed.Pairwise (·.line ≠ ·.line) := by
    rw [← List.pairwise_map (R := (· ≠ ·)), ← List.nodup_iff_pairwise_ne]
    exact (List.nodup_append.mp (told_nodup text)).2.1
  exact (hsorted.and hdistinct).imp fun h => Nat.lt_of_le_of_ne h.1 h.2

/-- What a log says of the lines of a text, whose groups are `items`. -/
structure Accounts (text : String) (items : List Group) (log : Log) : Prop where
  /-- All lines are counted that are not blank. -/
  lines : log.lines = ((Text.lines text).filter fun line => !(Text.trim line).isEmpty).length
  /-- A line that can be decoded is a line of just one item. -/
  decoded : ∀ {n line record}, IsLine text n line → Record.parse line = .ok record →
    ∃! item, item ∈ items ∧ ⟨n, record⟩ ∈ item.lines
  /-- An item has no other lines. -/
  of_item : ∀ item ∈ items, ∀ d ∈ item.lines,
    ∃ line, IsLine text d.number line ∧ Record.parse line = .ok d.record
  lines_ascending : ∀ item ∈ items, item.lines.Pairwise (·.number < ·.number)
  /-- A line that cannot be decoded is a line of none. -/
  rejected : ∀ {n line fault}, IsLine text n line → Record.parse line = .error fault →
    ∀ item ∈ items, ∀ d ∈ item.lines, d.number ≠ n
  entries : log.entries = items.filterMap Group.entry?
  /-- There is a note for each line that cannot be decoded, and for each item without a command. -/
  mem_malformed : ∀ {m}, m ∈ log.malformed ↔
    (∃ n line fault, IsLine text n line ∧ Record.parse line = .error fault ∧
      m = undecodable n line fault) ∨
    ∃ item ∈ items, (∀ d ∈ item.lines, d.record.cmd? = none) ∧ m = item.note
  entries_ascending : log.entries.Pairwise (·.line < ·.line)
  malformed_ascending : log.malformed.Pairwise (·.line < ·.line)
  apart : ∀ e ∈ log.entries, ∀ m ∈ log.malformed, e.line ≠ m.line
  at_most : log.entries.length + log.malformed.length ≤ log.lines

/-- Every line of a text that is not blank is accounted for once by its log. -/
theorem parse_accounts (text : String) :
    Accounts text (groups (decodedLines text)) (parse text) where
  lines := parse_lines text
  decoded {n line record} hline hparse := by
    have hmem : ⟨n, record⟩ ∈ decodedLines text := mem_decodedLines.mpr ⟨line, hline, hparse⟩
    rw [← (groups_lines_perm _).mem_iff] at hmem
    obtain ⟨item, hitem, hd⟩ := List.mem_flatMap.mp hmem
    exact ⟨item, ⟨hitem, hd⟩, fun item' h => group_eq_of_mem_lines h.1 hitem h.2 hd⟩
  of_item item hitem d hd := line_of_mem_lines hitem hd
  lines_ascending item hitem := (decodedLines_ascending text).sublist (lines_sublist hitem)
  rejected {n line fault} hline hparse := by
    -- A line of a group was decoded, so it cannot have been rejected.
    rintro item hitem d hd rfl
    obtain ⟨line', hline', hparse'⟩ := line_of_mem_lines hitem hd
    rw [hline.eq hline', hparse'] at hparse
    cases hparse
  entries := by rw [parse, entries_of_gathered (gathered_foldl _), decodedLines_eq]
  mem_malformed {m} := by
    simp only [← Group.entry?_eq_none_iff]
    rw [mem_parse_malformed, mem_rejected]
    rfl
  entries_ascending := entries_ascending text
  malformed_ascending := malformed_ascending text
  apart e he m hm :=
    (List.nodup_append.mp (told_nodup text)).2.2 _ (List.mem_map_of_mem he) _
      (List.mem_map_of_mem hm)
  at_most := by
    have hle := (told_subperm text).length_le
    rw [List.length_append, List.length_map, List.length_map, List.length_map,
      length_numberedLines, ← parse_lines] at hle
    exact hle

end HistoryAudit.Log
