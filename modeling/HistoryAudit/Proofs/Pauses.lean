/-
  HistoryAudit.Proofs.Pauses

  What is there behind several pauses. A loop that looks again and again makes
  pauses of one length (`afterPauses`); where the changes to come are listed in the
  order in which they are due, these come to one long pause (`afterPauses_eq_pause`).
-/
import HistoryAudit.Surroundings

namespace HistoryAudit

namespace Surroundings

/-- The changes to come are listed in the order in which they are due. -/
def InOrder (s : Surroundings) : Prop := s.events.Pairwise (·.due ≤ ·.due)

instance (s : Surroundings) : Decidable s.InOrder :=
  inferInstanceAs (Decidable (List.Pairwise _ _))

/-- Of changes in order, those that are due by `t` come in front of the others. -/
theorem filter_due_le {events : List Event} (h : events.Pairwise (·.due ≤ ·.due)) {t u : Nat}
    (htu : t ≤ u) :
    events.filter (·.due ≤ u) =
      events.filter (·.due ≤ t) ++ (events.filter (t < ·.due)).filter (·.due ≤ u) := by
  -- The changes come in order, so those that are due first stand in front.
  induction events with
  | nil => rfl
  | cons e events ih =>
    obtain ⟨hhead, htail⟩ := List.pairwise_cons.mp h
    by_cases he : e.due ≤ t
    · have hlate : ¬t < e.due := Nat.not_lt.mpr he
      have hdue : e.due ≤ u := Nat.le_trans he htu
      simp only [List.filter_cons, he, hdue, hlate, decide_true, decide_false, if_true,
        Bool.false_eq_true, if_false, List.cons_append, ih htail]
    · -- Nothing behind a change that is not due is due.
      have hnone : ∀ e' ∈ e :: events, ¬e'.due ≤ t := by
        intro e' he'
        rcases List.mem_cons.mp he' with rfl | hmem
        · exact he
        · exact fun hle => he (Nat.le_trans (hhead e' hmem) hle)
      have hfront : (e :: events).filter (·.due ≤ t) = [] :=
        List.filter_eq_nil_iff.mpr fun e' he' => by simpa using hnone e' he'
      have hall : (e :: events).filter (t < ·.due) = e :: events :=
        List.filter_eq_self.mpr fun e' he' => by simpa using hnone e' he'
      rw [hfront, hall, List.nil_append]

/-- Two pauses come to one, if the changes are listed in order. -/
theorem pause_pause {s : Surroundings} (h : s.InOrder) (a b : Nat) :
    (s.pause a).pause b = s.pause (a + b) := by
  have hdue : s.events.filter (·.due ≤ s.clock + (a + b)) =
      s.events.filter (·.due ≤ s.clock + a) ++
        (s.events.filter (s.clock + a < ·.due)).filter (·.due ≤ s.clock + (a + b)) :=
    filter_due_le h (by omega)
  have hlater : (s.events.filter (s.clock + a < ·.due)).filter (s.clock + (a + b) < ·.due) =
      s.events.filter (s.clock + (a + b) < ·.due) := by
    rw [List.filter_filter]
    refine List.filter_congr fun e _ => ?_
    rw [← Bool.decide_and, decide_eq_decide]
    omega
  -- Behind the first pause, the changes of the second one are those that one long pause makes last.
  simp only [pause, Nat.add_assoc]
  rw [hdue, hlater, List.foldl_append]

/-- The surroundings behind so many pauses of the same length. -/
def afterPauses (s : Surroundings) (interval : Nat) : (pauses : Nat) → Surroundings
  | 0 => s
  | n + 1 => (s.afterPauses interval n).pause interval

theorem afterPauses_succ (s : Surroundings) (interval n : Nat) :
    s.afterPauses interval (n + 1) = (s.afterPauses interval n).pause interval := rfl

/-- The first of the pauses can be taken apart as well as the last. -/
theorem afterPauses_pause (s : Surroundings) (interval n : Nat) :
    (s.pause interval).afterPauses interval n = s.afterPauses interval (n + 1) := by
  induction n with
  | zero => rfl
  | succ n ih => rw [afterPauses_succ, ih, ← afterPauses_succ]

/-- The pauses add up. -/
theorem afterPauses_clock (s : Surroundings) (interval n : Nat) :
    (s.afterPauses interval n).clock = s.clock + n * interval := by
  induction n with
  | zero => rw [afterPauses, Nat.zero_mul, Nat.add_zero]
  | succ n ih =>
    show (s.afterPauses interval n).clock + interval = _
    rw [ih, Nat.succ_mul, Nat.add_assoc]

/-- What is there behind some pauses is what is there at that time. -/
theorem afterPauses_eq_pause {s : Surroundings} (h : s.InOrder) (interval n : Nat) :
    s.afterPauses interval (n + 1) = s.pause ((n + 1) * interval) := by
  induction n with
  | zero =>
    rw [Nat.zero_add, Nat.one_mul]
    rfl
  | succ n ih => rw [afterPauses_succ, ih, pause_pause h, ← Nat.succ_mul]

end Surroundings

end HistoryAudit
