/-
  HistoryAudit.Proofs.Log.Grouping

  The commands of a log, said without a pass over its lines: decoded lines with
  the same `id` make one group, wherever they stand, and a line without `id` is
  a group of its own. A group gives an entry if one of its lines has a command;
  of every other member the last value that a line gives is taken.

  `groups_append_singleton` says what one more line does to the groups, which
  is what a pass over the lines needs.
-/
import HistoryAudit.Log.Reading
import Mathlib.Data.List.Basic

namespace HistoryAudit.Log

/-- A line that was decoded, with its number. -/
structure Decoded where
  number : Nat
  record : Record

namespace Decoded

/-- Do both lines have an `id`, and the same one? -/
def joins (a b : Decoded) : Bool :=
  a.record.id?.isSome && decide (a.record.id? = b.record.id?)

theorem joins_iff {a b : Decoded} :
    a.joins b = true ↔ ∃ id, a.record.id? = some id ∧ b.record.id? = some id := by
  rw [joins, Bool.and_eq_true, decide_eq_true_iff, Option.isSome_iff_exists]
  constructor
  · rintro ⟨⟨id, ha⟩, hab⟩
    exact ⟨id, ha, hab ▸ ha⟩
  · rintro ⟨id, ha, hb⟩
    exact ⟨⟨id, ha⟩, ha.trans hb.symm⟩

theorem joins_symm {a b : Decoded} (h : a.joins b = true) : b.joins a = true := by
  obtain ⟨id, ha, hb⟩ := joins_iff.mp h
  exact joins_iff.mpr ⟨id, hb, ha⟩

theorem joins_trans {a b c : Decoded} (hab : a.joins b = true) (hbc : b.joins c = true) :
    a.joins c = true := by
  obtain ⟨id, ha, hb⟩ := joins_iff.mp hab
  obtain ⟨id', hb', hc⟩ := joins_iff.mp hbc
  rw [hb] at hb'
  exact joins_iff.mpr ⟨id, ha, hb' ▸ hc⟩

end Decoded

/-- The lines of a text that are not blank and can be decoded, numbered from one. -/
def decodedLines (text : String) : List Decoded :=
  (((Text.lines text).zipIdx 1).filter fun (line, _) => !(Text.trim line).isEmpty).filterMap
    fun (line, number) => (Record.parse (Text.trim line)).toOption.map (⟨number, ·⟩)

/-- Lines that speak of the same command: the first one, and those that follow it. -/
structure Group where
  first : Decoded
  later : List Decoded

/-- The groups of some lines, in the order of their first lines. A line that no earlier one joins
opens a group with all that it joins behind it. -/
def groups : List Decoded → List Group
  | [] => []
  | d :: ds => ⟨d, ds.filter d.joins⟩ :: (groups ds).filter (!d.joins ·.first)

/-- The last value that some lines give for a member. -/
def lastValue? (f : Record → Option α) (ds : List Decoded) : Option α :=
  (ds.filterMap fun d => f d.record).getLast?

namespace Group

/-- All lines of a group. -/
def lines (g : Group) : List Decoded := g.first :: g.later

/-- The entry of a group, if one of its lines has a command. -/
def entry? (g : Group) : Option Entry :=
  (lastValue? (·.cmd?) g.lines).map fun cmd =>
    { line := g.first.number
      id? := g.first.record.id?
      cmd
      exit? := lastValue? (·.exit?) g.lines
      dur? := lastValue? (·.dur?) g.lines
      paths := (lastValue? (·.paths?) g.lines).getD []
      cwd? := lastValue? (·.cwd?) g.lines
      sid? := lastValue? (·.sid?) g.lines
      extraFields := (g.lines.flatMap (·.record.extra)).length }

/-- The group with one more line, if that line belongs to it. -/
def grow (d : Decoded) (g : Group) : Group :=
  if g.first.joins d then { g with later := g.later ++ [d] } else g

theorem grow_first (d : Decoded) (g : Group) : (g.grow d).first = g.first := by
  rw [grow]
  split <;> rfl

theorem grow_of_joins {d : Decoded} {g : Group} (h : g.first.joins d = true) :
    g.grow d = ⟨g.first, g.later ++ [d]⟩ := if_pos h

theorem grow_of_not_joins {d : Decoded} {g : Group} (h : ¬g.first.joins d = true) :
    g.grow d = g := if_neg h

/-- A line that joins no group changes none. -/
theorem map_grow_of_not_any {gs : List Group} {d : Decoded}
    (h : gs.any (·.first.joins d) = false) : gs.map (·.grow d) = gs := by
  have hsame : ∀ g ∈ gs, g.grow d = g := fun g hg =>
    grow_of_not_joins (List.any_eq_false.mp h g hg)
  rw [List.map_congr_left hsame, List.map_id']

end Group

/-! ## One more line -/

/-- A line joins a group iff it joins a line. -/
theorem any_groups_joins (d : Decoded) (ds : List Decoded) :
    (groups ds).any (·.first.joins d) = ds.any (·.joins d) := by
  induction ds with
  | nil => rfl
  | cons a ds ih =>
    rw [groups, List.any_cons, List.any_cons, ← ih]
    by_cases had : a.joins d = true
    · rw [had, Bool.true_or, Bool.true_or]
    · -- A group that is left out for `a` is not joined by `d`, which `a` does not join.
      rw [Bool.eq_false_iff.mpr had, Bool.false_or, Bool.false_or, List.any_filter]
      congr 1
      funext g
      by_cases hg : g.first.joins d = true
      · have hag : ¬a.joins g.first = true := fun h => had (Decoded.joins_trans h hg)
        rw [hg, Bool.eq_false_iff.mpr hag]
        rfl
      · rw [Bool.eq_false_iff.mpr hg, Bool.and_false]

/-- No two groups have the same `id`. -/
theorem groups_pairwise (ds : List Decoded) :
    (groups ds).Pairwise fun g h => ¬g.first.joins h.first = true := by
  induction ds with
  | nil => exact List.Pairwise.nil
  | cons a ds ih =>
    rw [groups, List.pairwise_cons]
    refine ⟨fun g hg => ?_, ih.filter _⟩
    simpa using (List.mem_filter.mp hg).2

/-- One more line grows the group that it joins, or opens a group behind the others. -/
theorem groups_append_singleton (ds : List Decoded) (d : Decoded) :
    groups (ds ++ [d]) =
      (groups ds).map (·.grow d) ++ if ds.any (·.joins d) then [] else [⟨d, []⟩] := by
  induction ds with
  | nil => rfl
  | cons a ds ih =>
    -- Growing keeps the first line, so `a` takes the same groups away before and after it.
    have hfirst : ((groups ds).map (·.grow d)).filter (!a.joins ·.first) =
        ((groups ds).filter (!a.joins ·.first)).map (·.grow d) := by
      rw [List.filter_map]
      congr 2
      funext g
      rw [Function.comp_apply, Group.grow_first]
    rw [List.cons_append, groups, groups, ih, List.filter_append, List.filter_append, hfirst,
      List.map_cons, List.any_cons, List.cons_append]
    by_cases had : a.joins d = true
    · -- The line belongs to `a`: its group grows, and a group that `d` opened is taken away.
      have hnew : ([⟨d, []⟩] : List Group).filter (!a.joins ·.first) = [] := by simp [had]
      rw [Group.grow_of_joins had, had, Bool.true_or, if_pos rfl, List.filter_cons_of_pos had,
        List.filter_nil]
      split
      · rfl
      · rw [hnew]
    · -- The line is none of `a`, so the groups of the others decide.
      have hnew : ([⟨d, []⟩] : List Group).filter (!a.joins ·.first) = [⟨d, []⟩] := by simp [had]
      rw [Group.grow_of_not_joins had, Bool.eq_false_iff.mpr had, Bool.false_or,
        List.filter_cons_of_neg had, List.filter_nil, List.append_nil]
      split
      · rfl
      · rw [hnew]

end HistoryAudit.Log
