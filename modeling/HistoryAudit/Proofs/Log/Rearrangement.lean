/-
  HistoryAudit.Proofs.Log.Rearrangement

  Lines of a log in another order. Only lines with the same `id` must stay in
  their order, since a later one replaces what an earlier one said; all others may
  change places. Then the groups are the same, though in another order
  (`Rearranged.groups`), and so are the entries but for the numbers of their lines
  (`parse_entries_rearranged`).
-/
import HistoryAudit.Proofs.Log.Malformed

namespace HistoryAudit.Log

/-! ## Lines without their numbers -/

/-- The line as it would be read without a number. -/
def Decoded.unnumbered (d : Decoded) : Decoded := { d with number := 0 }

/-- The entry without the number of its first line. -/
def Entry.unnumbered (e : Entry) : Entry := { e with line := 0 }

namespace Group

/-- The group of the lines without their numbers. -/
def unnumbered (g : Group) : Group := ⟨g.first.unnumbered, g.later.map Decoded.unnumbered⟩

theorem lastValue?_unnumbered (f : Record → Option α) (ds : List Decoded) :
    lastValue? f (ds.map Decoded.unnumbered) = lastValue? f ds := by
  rw [lastValue?, List.filterMap_map]
  rfl

theorem lines_unnumbered (g : Group) : g.unnumbered.lines = g.lines.map Decoded.unnumbered := rfl

/-- What a group says does not depend on the numbers of its lines. -/
theorem entry?_unnumbered (g : Group) :
    g.unnumbered.entry? = g.entry?.map Entry.unnumbered := by
  have hextra : (g.lines.map Decoded.unnumbered).flatMap (·.record.extra) =
      g.lines.flatMap (·.record.extra) := by
    rw [List.flatMap_map]
    rfl
  simp only [lines_unnumbered, entry?, lastValue?_unnumbered, hextra, Option.map_map]
  rfl

end Group

/-- Numbers do not decide which lines make a group. -/
theorem groups_unnumbered (ds : List Decoded) :
    groups (ds.map Decoded.unnumbered) = (groups ds).map Group.unnumbered := by
  induction ds with
  | nil => rfl
  | cons d ds ih =>
    rw [List.map_cons, groups, groups, ih, List.map_cons, List.filter_map, List.filter_map]
    rfl

/-- Blank lines and lines that cannot be decoded leave no trace but in the numbers of the others. -/
theorem decodedLines_unnumbered (text : String) :
    (decodedLines text).map Decoded.unnumbered =
      ((numberedLines text).map (·.2)).filterMap fun line => decoded? (0, line) := by
  have hline : ∀ l, (decoded? l).map Decoded.unnumbered = decoded? (0, l.2) := by
    intro l
    rw [decoded?, decoded?, Option.map_map]
    rfl
  rw [decodedLines_eq, List.map_filterMap, List.filterMap_map]
  exact List.filterMap_congr fun l _ => hline l

/-! ## Another order -/

/-- Does the line have this `id`? -/
def Decoded.hasId (id : String) (d : Decoded) : Bool := decide (d.record.id? = some id)

theorem Decoded.hasId_iff {id : String} {d : Decoded} :
    d.hasId id = true ↔ d.record.id? = some id := decide_eq_true_iff

/-- The same lines in another order, in which those with the same `id` stand as before. -/
structure Rearranged (as bs : List Decoded) : Prop where
  perm : as.Perm bs
  order : ∀ id, as.filter (·.hasId id) = bs.filter (·.hasId id)

namespace Rearranged

variable {a : Decoded} {as bs xs ys : List Decoded}

/-- A line joins the same lines, in the same order. -/
theorem filter_joins (h : Rearranged as bs) (a : Decoded) :
    as.filter a.joins = bs.filter a.joins := by
  cases hid : a.record.id? with
  | none =>
    -- Without an `id` the line joins nothing.
    have hnone : ∀ d : Decoded, ¬a.joins d = true := by
      intro d hd
      obtain ⟨id, ha, -⟩ := Decoded.joins_iff.mp hd
      rw [hid] at ha
      cases ha
    rw [List.filter_eq_nil_iff.mpr fun d _ => hnone d,
      List.filter_eq_nil_iff.mpr fun d _ => hnone d]
  | some id =>
    have hjoins : a.joins = fun d => d.hasId id := by
      funext d
      rw [Decoded.joins, hid, Option.isSome_some, Bool.true_and]
      exact decide_eq_decide.mpr eq_comm
    rw [hjoins, h.order id]

/-- The line that comes first stands somewhere in the other order, and none before it there has its
`id`. -/
theorem exists_split (h : Rearranged (a :: as) bs) :
    ∃ xs ys, bs = xs ++ a :: ys ∧ ∀ x ∈ xs, ¬a.joins x = true := by
  -- A line without an `id` joins no line, not even itself.
  have hself : a.joins a = true ∨ a.record.id? = none := by
    cases hid : a.record.id? with
    | none => exact .inr rfl
    | some id => exact .inl (Decoded.joins_iff.mpr ⟨id, hid, hid⟩)
  rcases hself with hself | hnone
  · have hfilter : bs.filter a.joins = a :: as.filter a.joins := by
      rw [← h.filter_joins a, List.filter_cons_of_pos hself]
    obtain ⟨xs, ys, hbs, hxs, -⟩ := List.filter_eq_cons_iff.mp hfilter
    exact ⟨xs, ys, hbs, hxs⟩
  · obtain ⟨xs, ys, hbs⟩ := List.append_of_mem (h.perm.subset List.mem_cons_self)
    refine ⟨xs, ys, hbs, ?_⟩
    intro x _ hx
    obtain ⟨id, ha, -⟩ := Decoded.joins_iff.mp hx
    rw [hnone] at ha
    cases ha

/-- Without that line, the others are still in another order only. -/
theorem tail (h : Rearranged (a :: as) (xs ++ a :: ys)) (hxs : ∀ x ∈ xs, ¬a.joins x = true) :
    Rearranged as (xs ++ ys) where
  perm := (List.perm_cons a).mp (h.perm.trans List.perm_middle)
  order id := by
    have horder := h.order id
    rw [List.filter_append] at horder ⊢
    -- The line counts for its own `id` alone.
    by_cases hid : a.hasId id = true
    · have hnone : xs.filter (·.hasId id) = [] := by
        rw [List.filter_eq_nil_iff]
        intro x hx hxid
        exact hxs x hx (Decoded.joins_iff.mpr
          ⟨id, Decoded.hasId_iff.mp hid, Decoded.hasId_iff.mp hxid⟩)
      rw [hnone, List.nil_append, List.filter_cons_of_pos hid, List.filter_cons_of_pos hid]
        at horder
      rw [hnone, List.nil_append]
      exact List.tail_eq_of_cons_eq horder
    · rwa [List.filter_cons_of_neg hid, List.filter_cons_of_neg hid] at horder

end Rearranged

/-- A line that joins none of those before it can be taken to the front: its group then comes first,
and nothing else changes. -/
theorem groups_perm_front {a : Decoded} {xs ys : List Decoded}
    (h : ∀ x ∈ xs, ¬a.joins x = true) :
    (groups (xs ++ a :: ys)).Perm (groups (a :: (xs ++ ys))) := by
  induction xs with
  | nil => exact .refl _
  | cons x xs ih =>
    obtain ⟨hax, hxs⟩ := List.forall_mem_cons.mp h
    have hxa : ¬x.joins a = true := fun hxa => hax (Decoded.joins_symm hxa)
    have hown : (xs ++ a :: ys).filter x.joins = (xs ++ ys).filter x.joins := by
      rw [List.filter_append, List.filter_append, List.filter_cons_of_neg hxa]
    have hkept : (!x.joins a) = true := by
      rw [Bool.eq_false_iff.mpr hxa]
      rfl
    have hkept' : (!a.joins x) = true := by
      rw [Bool.eq_false_iff.mpr hax]
      rfl
    -- Both orders give the groups of `x` and of `a`, and then what neither of them joins.
    have hleft := (ih hxs).filter (!x.joins ·.first)
    rw [groups, List.filter_cons_of_pos (p := fun g : Group => !x.joins g.first) hkept] at hleft
    rw [List.cons_append, List.cons_append, groups, groups, groups, hown,
      List.filter_cons_of_neg hax,
      List.filter_cons_of_pos (p := fun g : Group => !a.joins g.first) hkept', List.filter_comm]
    exact (hleft.cons _).trans (.swap ..)

/-- Another order of the lines gives the same groups in another order. -/
theorem Rearranged.groups {as bs : List Decoded} (h : Rearranged as bs) :
    (Log.groups as).Perm (Log.groups bs) := by
  induction as generalizing bs with
  | nil => rw [List.nil_perm.mp h.perm]
  | cons a as ih =>
    obtain ⟨xs, ys, rfl, hxs⟩ := h.exists_split
    have htail := h.tail hxs
    refine List.Perm.trans ?_ (groups_perm_front hxs).symm
    rw [Log.groups, Log.groups, htail.filter_joins a]
    exact ((ih htail).filter _).cons _

/-! ## The entries of a log -/

/-- The entries of logs whose lines are in another order are the same in another order, but for the
numbers of their lines. -/
theorem parse_entries_rearranged {text text' : String}
    (h : Rearranged ((decodedLines text).map Decoded.unnumbered)
      ((decodedLines text').map Decoded.unnumbered)) :
    ((parse text).entries.map Entry.unnumbered).Perm
      ((parse text').entries.map Entry.unnumbered) := by
  have hentries : ∀ text, (parse text).entries.map Entry.unnumbered =
      (Log.groups ((decodedLines text).map Decoded.unnumbered)).filterMap Group.entry? := by
    intro text
    rw [parse, entries_of_gathered (gathered_foldl _), ← decodedLines_eq, groups_unnumbered,
      List.map_filterMap, List.filterMap_map]
    exact List.filterMap_congr fun g _ => g.entry?_unnumbered.symm
  rw [hentries, hentries]
  exact h.groups.filterMap _

end HistoryAudit.Log
