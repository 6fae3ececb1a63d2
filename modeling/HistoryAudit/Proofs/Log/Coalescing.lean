/-
  HistoryAudit.Proofs.Log.Coalescing

  Reading a log gives one entry for each group of its lines. After any number
  of lines the commands under construction are the groups of the lines so far,
  each summed up (`Gathered`); `gathered_push` is the step and `gathered_foldl`
  the run.
-/
import HistoryAudit.Proofs.Log.Grouping
import HistoryAudit.Proofs.Log.Slots
import Mathlib.Data.List.Induction

namespace HistoryAudit.Log

/-! ## Summing up a group -/

theorem lastValue?_cons (f : Record → Option α) (d : Decoded) (ds : List Decoded) :
    lastValue? f (d :: ds) = (lastValue? f ds).or (f d.record) := by
  rw [lastValue?, lastValue?, List.filterMap_cons]
  cases f d.record with
  | none => rw [Option.or_none]
  | some v => rw [List.getLast?_cons, Option.or_some]

/-- What some lines make of a command is decided by the last values that they give. -/
theorem foldl_annotate (p : Pending) (ds : List Decoded) :
    ds.foldl (fun p d => p.annotate d.record) p =
      { p with
        cmd? := (lastValue? (·.cmd?) ds).or p.cmd?
        exit? := (lastValue? (·.exit?) ds).or p.exit?
        dur? := (lastValue? (·.dur?) ds).or p.dur?
        paths := (lastValue? (·.paths?) ds).getD p.paths
        cwd? := (lastValue? (·.cwd?) ds).or p.cwd?
        sid? := (lastValue? (·.sid?) ds).or p.sid?
        extraFields := p.extraFields + (ds.flatMap (·.record.extra)).length } := by
  induction ds generalizing p with
  | nil => rfl
  | cons d ds ih =>
    rw [List.foldl_cons, ih]
    simp only [Pending.annotate, lastValue?_cons, Option.or_assoc, Option.getD_or,
      List.flatMap_cons, List.length_append, Nat.add_assoc]

namespace Group

/-- The command under construction that the lines of a group make. -/
def pending (g : Group) : Pending :=
  g.lines.foldl (fun p d => p.annotate d.record)
    { line := g.first.number, id? := g.first.record.id? }

theorem pending_id (g : Group) : g.pending.id? = g.first.record.id? := by
  rw [pending, foldl_annotate]

/-- A line that joins the group annotates its command. -/
theorem pending_grow {g : Group} {d : Decoded} (h : g.first.joins d = true) :
    (g.grow d).pending = g.pending.annotate d.record := by
  rw [grow_of_joins h, pending, pending, lines, lines, ← List.cons_append, List.foldl_append]
  rfl

theorem finish_pending (g : Group) : g.pending.finish.toOption = g.entry? := by
  rw [pending, foldl_annotate, Pending.finish, entry?]
  simp only [Option.or_none, Nat.zero_add]
  cases lastValue? (·.cmd?) g.lines <;> rfl

end Group

/-! ## Adding a line -/

/-- A line that joins none of the groups stands behind them. -/
theorem amend_of_not_any {gs : List Group} {d : Decoded} {id : String}
    (hid : d.record.id? = some id) (h : gs.any (·.first.joins d) = false) :
    Pending.amend d.number id d.record (gs.map Group.pending) =
      gs.map Group.pending ++ [Group.pending ⟨d, []⟩] := by
  induction gs with
  | nil =>
    rw [List.map_nil, Pending.amend, Group.pending, List.nil_append, hid]
    rfl
  | cons g gs ih =>
    rw [List.any_cons, Bool.or_eq_false_iff] at h
    have hg : ¬g.pending.id? = some id := by
      intro hgid
      rw [Group.pending_id] at hgid
      exact Bool.eq_false_iff.mp h.1 (Decoded.joins_iff.mpr ⟨id, hgid, hid⟩)
    rw [List.map_cons, Pending.amend, if_neg hg, ih h.2, List.cons_append]

/-- A line that joins a group, and then only one, annotates it. -/
theorem amend_of_any {gs : List Group} {d : Decoded} {id : String}
    (hid : d.record.id? = some id) (h : gs.any (·.first.joins d) = true)
    (hgs : gs.Pairwise fun g h => ¬g.first.joins h.first = true) :
    Pending.amend d.number id d.record (gs.map Group.pending) =
      (gs.map (·.grow d)).map Group.pending := by
  induction gs with
  | nil => simp at h
  | cons g gs ih =>
    rw [List.pairwise_cons] at hgs
    rw [List.map_cons, List.map_cons, List.map_cons, Pending.amend]
    by_cases hg : g.first.joins d = true
    · have hgid : g.pending.id? = some id := by
        obtain ⟨id', hg', hd'⟩ := Decoded.joins_iff.mp hg
        rw [hid] at hd'
        rw [Group.pending_id, hg', hd']
      -- No group behind `g` has this `id`, and the search stops here, too.
      have hrest : ∀ x ∈ gs, x.grow d = x := fun x hx =>
        Group.grow_of_not_joins fun hxd =>
          hgs.1 x hx (Decoded.joins_trans hg (Decoded.joins_symm hxd))
      rw [if_pos hgid, Group.pending_grow hg, List.map_congr_left hrest, List.map_id']
    · have hgid : ¬g.pending.id? = some id := by
        intro hgid
        rw [Group.pending_id] at hgid
        exact hg (Decoded.joins_iff.mpr ⟨id, hgid, hid⟩)
      rw [List.any_cons, Bool.eq_false_iff.mpr hg, Bool.false_or] at h
      rw [if_neg hgid, ih h hgs.2, Group.grow_of_not_joins hg]

/-- Adding a line to the commands of some lines gives the commands of all of them. -/
theorem add_groups (ds : List Decoded) (d : Decoded) :
    Pending.add d.number d.record ((groups ds).map Group.pending) =
      (groups (ds ++ [d])).map Group.pending := by
  rw [groups_append_singleton, Pending.add, ← any_groups_joins]
  cases hid : d.record.id? with
  | none =>
    -- Without an `id` the line joins nothing.
    have hnot : ∀ g : Group, ¬g.first.joins d = true := by
      intro g hg
      obtain ⟨id, -, hd⟩ := Decoded.joins_iff.mp hg
      rw [hid] at hd
      cases hd
    have hany : (groups ds).any (·.first.joins d) = false :=
      List.any_eq_false.mpr fun g _ => hnot g
    rw [Group.map_grow_of_not_any hany, hany, if_neg Bool.false_ne_true, List.map_append,
      List.map_singleton, Group.pending, hid]
    rfl
  | some id =>
    cases h : (groups ds).any (·.first.joins d) with
    | true =>
      rw [if_pos rfl, List.append_nil]
      exact amend_of_any hid h (groups_pairwise ds)
    | false =>
      rw [Group.map_grow_of_not_any h, if_neg Bool.false_ne_true, List.map_append,
        List.map_singleton]
      exact amend_of_not_any hid h

/-! ## The whole log -/

/-- A numbered line, decoded, if it can be. -/
def decoded? : Nat × String → Option Decoded
  | (number, line) => (Record.parse line).toOption.map (⟨number, ·⟩)

/-- The note about a numbered line, if it cannot be decoded. -/
def rejected? : Nat × String → Option Malformed
  | (number, line) =>
    match Record.parse line with
    | .ok _ => none
    | .error fault => some (undecodable number line fault)

/-- After some lines the builder has what their groups, and the lines that are not in one, say. -/
structure Gathered (ls : List (Nat × String)) (b : Builder) : Prop where
  indexed : b.Indexed
  pending : b.pending = (groups (ls.filterMap decoded?)).map Group.pending
  malformed : b.malformed = ls.filterMap rejected?
  lines : b.lines = ls.length

/-- One more line keeps the builder in step with the lines. -/
theorem gathered_push {ls : List (Nat × String)} {b : Builder} (h : Gathered ls b)
    (number : Nat) (line : String) :
    Gathered (ls ++ [(number, line)]) (b.push number line) := by
  have hlen : b.lines + 1 = (ls ++ [(number, line)]).length := by
    rw [h.lines, List.length_append, List.length_singleton]
  -- The line is counted before it is read.
  let counted : Builder := { b with lines := b.lines + 1 }
  have hindexed : counted.Indexed := h.indexed
  cases hr : Record.parse line with
  | ok r =>
    have hd : decoded? (number, line) = some ⟨number, r⟩ := by rw [decoded?, hr]; rfl
    have hm : rejected? (number, line) = none := by rw [rejected?, hr]
    have hpush : b.push number line = counted.add number r := by rw [Builder.push, hr]
    obtain ⟨hmalformed, hlines⟩ := counted.add_keeps number r
    rw [hpush]
    refine ⟨hindexed.add number r, ?_, ?_, hlines.trans hlen⟩
    · have hpending : counted.pending = _ := h.pending
      rw [hindexed.add_pending, hpending, List.filterMap_append, List.filterMap_cons_some hd,
        List.filterMap_nil]
      exact add_groups (ls.filterMap decoded?) ⟨number, r⟩
    · rw [hmalformed, List.filterMap_append, List.filterMap_cons_none hm, List.filterMap_nil,
        List.append_nil]
      exact h.malformed
  | error fault =>
    have hd : decoded? (number, line) = none := by rw [decoded?, hr]; rfl
    have hm : rejected? (number, line) = some (undecodable number line fault) := by
      rw [rejected?, hr]
    have hpush : b.push number line =
        { counted with malformed := b.malformed ++ [undecodable number line fault] } := by
      rw [Builder.push, hr]
    rw [hpush]
    refine ⟨hindexed, ?_, ?_, hlen⟩
    · rw [List.filterMap_append, List.filterMap_cons_none hd, List.filterMap_nil, List.append_nil]
      exact h.pending
    · rw [h.malformed, List.filterMap_append, List.filterMap_cons_some hm, List.filterMap_nil]

/-- After all lines, the builder is in step with them. -/
theorem gathered_foldl (ls : List (Nat × String)) :
    Gathered ls (ls.foldl (fun b (number, line) => b.push number line) ({} : Builder)) := by
  -- The pass goes from the left, so its last step is the last line.
  induction ls using List.reverseRecOn with
  | nil => exact ⟨Builder.indexed_empty, rfl, rfl, rfl⟩
  | append_singleton ls l ih =>
    rw [List.foldl_append]
    exact gathered_push ih l.1 l.2

theorem decodedLines_eq (text : String) :
    decodedLines text = (numberedLines text).filterMap decoded? := by
  rw [decodedLines, numberedLines, List.filterMap_filter, List.filterMap_filterMap]
  refine List.filterMap_congr fun l _ => ?_
  cases h : (Text.trim l.1).isEmpty with
  | true => simp only [h, Bool.not_true, Bool.false_eq_true, if_false, if_true, Option.bind_none]
  | false => simp only [h, Bool.not_false, Bool.false_eq_true, if_false, if_true,
      Option.bind_some, decoded?]

/-- The entries of a log are those of the groups of its decoded lines, in the order of the groups'
first lines. -/
theorem parse_entries (text : String) :
    (parse text).entries = (groups (decodedLines text)).filterMap Group.entry? := by
  have h := gathered_foldl (numberedLines text)
  rw [parse, Builder.finish, h.pending, ← decodedLines_eq, List.map_map, List.filterMap_map]
  exact List.filterMap_congr fun g _ => g.finish_pending

end HistoryAudit.Log
