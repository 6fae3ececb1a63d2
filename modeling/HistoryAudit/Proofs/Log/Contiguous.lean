/-
  HistoryAudit.Proofs.Log.Contiguous

  Lines that stand group by group. If the first line of each group joins the
  others of its group and no line behind them, the groups are found as they
  were put there.
-/
import HistoryAudit.Proofs.Log.Grouping

namespace HistoryAudit.Log

variable {a : Decoded} {ds rest : List Decoded}

/-- Lines of one group join the same lines. -/
theorem Decoded.joins_congr {b : Decoded} (h : a.joins b = true) (d : Decoded) :
    a.joins d = b.joins d := by
  rw [Bool.eq_iff_iff]
  exact ⟨fun had => joins_trans (joins_symm h) had, fun hbd => joins_trans h hbd⟩

theorem first_mem_of_mem_groups {g : Group} (h : g ∈ groups ds) : g.first ∈ ds := by
  induction ds with
  | nil => cases h
  | cons d ds ih =>
    rw [groups, List.mem_cons] at h
    cases h with
    | inl hfirst =>
      rw [hfirst]
      exact List.mem_cons_self
    | inr hbehind => exact List.mem_cons_of_mem _ (ih (List.mem_filter.mp hbehind).1)

/-- Without the groups that `a` joins, the lines that it joins have left nothing behind. -/
theorem filter_groups_append (hjoined : ∀ d ∈ ds, a.joins d = true)
    (hapart : ∀ d ∈ rest, ¬a.joins d = true) :
    (groups (ds ++ rest)).filter (!a.joins ·.first) = groups rest := by
  induction ds with
  | nil =>
    rw [List.nil_append, List.filter_eq_self]
    intro g hg
    rw [Bool.not_eq_true', Bool.eq_false_iff]
    exact hapart g.first (first_mem_of_mem_groups hg)
  | cons d ds ih =>
    rw [List.forall_mem_cons] at hjoined
    have hsame : (fun g : Group => !a.joins g.first) = fun g => !d.joins g.first := by
      funext g
      rw [Decoded.joins_congr hjoined.1]
    -- The group of `d` goes, and the others go through the same filter twice.
    rw [List.cons_append, groups, ← hsame]
    simp only [List.filter_cons, hjoined.1, Bool.not_true, Bool.false_eq_true, if_false,
      List.filter_filter, Bool.and_self]
    exact ih hjoined.2

/-- Each first line joins the others of its group, and no line of a later group. -/
structure Contiguous (gs : List Group) : Prop where
  own : ∀ g ∈ gs, ∀ d ∈ g.later, g.first.joins d = true
  apart : gs.Pairwise fun g h => ∀ d ∈ h.lines, ¬g.first.joins d = true

/-- Groups that are written one behind the other are the groups of the whole. -/
theorem groups_flatMap {gs : List Group} (h : Contiguous gs) :
    groups (gs.flatMap Group.lines) = gs := by
  -- The first group takes all its lines, so the others are left as they were.
  induction gs with
  | nil => rfl
  | cons g gs ih =>
    have hown := h.own g List.mem_cons_self
    have hpairs := List.pairwise_cons.mp h.apart
    have hapart : ∀ d ∈ gs.flatMap Group.lines, ¬g.first.joins d = true := by
      intro d hd
      obtain ⟨g', hg', hd⟩ := List.mem_flatMap.mp hd
      exact hpairs.1 g' hg' d hd
    have htail := ih ⟨fun g' hg' => h.own g' (List.mem_cons_of_mem g hg'), hpairs.2⟩
    -- None of the lines behind belongs to it.
    have hlater : (g.later ++ gs.flatMap Group.lines).filter g.first.joins = g.later := by
      rw [List.filter_append, List.filter_eq_self.mpr hown, List.filter_eq_nil_iff.mpr hapart,
        List.append_nil]
    rw [List.flatMap_cons, Group.lines, List.cons_append, groups, hlater,
      filter_groups_append hown hapart, htail]

end HistoryAudit.Log
