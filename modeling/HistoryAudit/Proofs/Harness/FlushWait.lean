/-
  HistoryAudit.Proofs.Harness.FlushWait

  How the wait for the log ends. Each look finds a size, or no log, and what becomes
  of the log between two looks is left open. The wait is over at the first look that
  finds what the one before it found, if that is not nothing (`Settled`), and with
  the last look at the latest. `flush_decided_by_sizes` says so of every sequence of
  sizes, and that there is a pause in front of each look but the first and none
  behind the last.
-/
import HistoryAudit.Harness.Artifact
import HistoryAudit.Proofs.Pauses

namespace HistoryAudit

namespace Harness

/-! ## Sizes that settle -/

/-- How many looks were made. -/
def FlushStatus.polls : FlushStatus → Nat
  | .stable polls _ | .unstable polls _ | .missing polls => polls

/-- The size that look `k`, counted from one, finds at the path; there are `k - 1` pauses in front of
it. -/
def sizeSeen (path : OsText) (interval : Nat) (s : Surroundings) (k : Nat) : Option Nat :=
  (s.afterPauses interval (k - 1)).files.size? path

/-- Look `p` and the one before it find the same `b` bytes, and these are not none. -/
structure Settled (size : Nat → Option Nat) (p b : Nat) : Prop where
  second : 2 ≤ p
  before : size (p - 1) = some b
  now : size p = some b
  positive : 0 < b

/-- The end of a wait with `n` looks that find these sizes. -/
inductive Decided (size : Nat → Option Nat) (n : Nat) : FlushStatus → Prop
  | stable {p b : Nat} (inTime : p ≤ n) (settled : Settled size p b)
    (first : ∀ q < p, ∀ c, ¬Settled size q c) : Decided size n (.stable p b)
  | unstable {b : Nat} (never : ∀ q ≤ n, ∀ c, ¬Settled size q c) (there : size n = some b) :
    Decided size n (.unstable n b)
  | missing (never : ∀ q ≤ n, ∀ c, ¬Settled size q c) (gone : size n = none) :
    Decided size n (.missing n)

variable {size : Nat → Option Nat} {n polls : Nat}

/-- What the last of `polls` looks has found; before the first one nothing is known. -/
def lastSeen (size : Nat → Option Nat) (polls : Nat) : Option Nat :=
  if polls = 0 then none else size polls

theorem lastSeen_succ (size : Nat → Option Nat) (polls : Nat) :
    lastSeen size (polls + 1) = size (polls + 1) := if_neg (Nat.succ_ne_zero polls)

/-- A look settles the sizes iff it finds what the last look has found. -/
theorem settled_succ_iff {b : Nat} :
    Settled size (polls + 1) b ↔
      lastSeen size polls = some b ∧ size (polls + 1) = some b ∧ 0 < b := by
  constructor
  · intro h
    have hsome : polls ≠ 0 := by
      have hsecond := h.second
      omega
    rw [lastSeen, if_neg hsome]
    exact ⟨h.before, h.now, h.positive⟩
  · rintro ⟨hlast, hnow, hpositive⟩
    -- Before the first look nothing is known that could be found again.
    have hsome : polls ≠ 0 := by
      rintro rfl
      rw [lastSeen, if_pos rfl] at hlast
      cases hlast
    rw [lastSeen, if_neg hsome] at hlast
    exact ⟨by omega, hlast, hnow, hpositive⟩

theorem never_succ (hnever : ∀ q ≤ polls, ∀ c, ¬Settled size q c)
    (hnext : ∀ c, ¬Settled size (polls + 1) c) : ∀ q ≤ polls + 1, ∀ c, ¬Settled size q c := by
  intro q hq c
  rcases Nat.lt_or_eq_of_le hq with hlt | rfl
  · exact hnever q (Nat.le_of_lt_succ hlt) c
  · exact hnext c

/-! ## The wait -/

variable {path : OsText} {interval : Nat} {s : Surroundings}

/-- One more look: it ends the wait, or the wait goes on behind a pause, if a look is left. -/
theorem flushFrom_succ (path : OsText) (interval left polls : Nat) (last? : Option Nat)
    (s : Surroundings) :
    (∃ b, last? = some b ∧ s.files.size? path = some b ∧ 0 < b ∧
        flushFrom path interval (left + 1) polls last? s = (.stable (polls + 1) b, s)) ∨
      (∀ b, ¬(last? = some b ∧ s.files.size? path = some b ∧ 0 < b)) ∧
        flushFrom path interval (left + 1) polls last? s =
          flushFrom path interval left (polls + 1) (s.files.size? path)
            (if left = 0 then s else s.pause interval) := by
  cases hlast : last? with
  | none => exact .inr ⟨fun b h => absurd h.1 nofun, rfl⟩
  | some previous =>
    cases hsize : s.files.size? path with
    | none =>
      refine .inr ⟨fun b h => absurd h.2.1 nofun, ?_⟩
      simp only [flushFrom, hsize]
    | some current =>
      -- Two looks in a row that agree on a size above zero.
      by_cases hsame : previous = current ∧ current > 0
      · refine .inl ⟨current, congrArg some hsame.1, rfl, hsame.2, ?_⟩
        simp only [flushFrom, hsize, if_pos hsame]
      · refine .inr ⟨?_, ?_⟩
        · rintro b ⟨hprevious, hcurrent, hpositive⟩
          obtain rfl := Option.some.inj hprevious
          obtain rfl := Option.some.inj hcurrent
          exact hsame ⟨rfl, hpositive⟩
        · simp only [flushFrom, hsize, if_neg hsame]

/-- The wait, with `polls` looks made and `left` looks to come. -/
theorem flushFrom_decided (left : Nat) {polls : Nat} {now : Surroundings}
    (hnow : now = s.afterPauses interval (if left = 0 then polls - 1 else polls))
    (hnever : ∀ q ≤ polls, ∀ c, ¬Settled (sizeSeen path interval s) q c)
    (hlooks : 1 ≤ polls + left) :
    let r := flushFrom path interval left polls (lastSeen (sizeSeen path interval s) polls) now
    Decided (sizeSeen path interval s) (polls + left) r.1 ∧
      r.2 = s.afterPauses interval (r.1.polls - 1) := by
  -- On the looks that are left. What carries it is that none of those made has settled the sizes.
  induction left generalizing polls now with
  | zero =>
    -- No look is left: what the last one has found decides.
    rw [if_pos rfl] at hnow
    have hlast : lastSeen (sizeSeen path interval s) polls = sizeSeen path interval s polls :=
      if_neg (by omega)
    rw [hlast]
    cases hsize : sizeSeen path interval s polls with
    | none => exact ⟨.missing hnever hsize, hnow⟩
    | some b => exact ⟨.unstable hnever hsize, hnow⟩
  | succ left ih =>
    rw [if_neg (Nat.succ_ne_zero left)] at hnow
    have hsize : now.files.size? path = sizeSeen path interval s (polls + 1) := by
      rw [hnow, sizeSeen, Nat.add_sub_cancel]
    have hsettled : ∀ c, Settled (sizeSeen path interval s) (polls + 1) c ↔
        lastSeen (sizeSeen path interval s) polls = some c ∧
          now.files.size? path = some c ∧ 0 < c := by
      intro c
      rw [settled_succ_iff, hsize]
    rcases flushFrom_succ path interval left polls
        (lastSeen (sizeSeen path interval s) polls) now with
      ⟨b, hlast, hfound, hpositive, heq⟩ | ⟨hunsettled, heq⟩
    · -- This look finds what the last one found, and nothing has settled before.
      rw [heq]
      refine ⟨.stable (by omega) ((hsettled b).mpr ⟨hlast, hfound, hpositive⟩) ?_, hnow⟩
      exact fun q hq c => hnever q (Nat.le_of_lt_succ hq) c
    · have hcount : polls + (left + 1) = polls + 1 + left := by omega
      rw [heq, hsize, ← lastSeen_succ (sizeSeen path interval s) polls, hcount]
      refine ih ?_ (never_succ hnever fun c => mt (hsettled c).mp (hunsettled c)) (by omega)
      -- No pause is made behind the last look.
      by_cases hleft : left = 0
      · rw [if_pos hleft, if_pos hleft, hnow, Nat.add_sub_cancel]
      · rw [if_neg hleft, if_neg hleft, hnow, Surroundings.afterPauses_succ]

theorem waitForFlush_decided (path : OsText) (policy : Config.FlushPolicy) (s : Surroundings) :
    let r := waitForFlush path policy s
    Decided (sizeSeen path policy.interval s) (max policy.attempts 1) r.1 ∧
      r.2 = s.afterPauses policy.interval (r.1.polls - 1) := by
  have hlooks : max policy.attempts 1 ≠ 0 := by omega
  have hnow : s = s.afterPauses policy.interval (if max policy.attempts 1 = 0 then 0 - 1 else 0) := by
    rw [if_neg hlooks, Surroundings.afterPauses]
  have hnever : ∀ q ≤ 0, ∀ c, ¬Settled (sizeSeen path policy.interval s) q c := by
    intro q hq c h
    have hsecond := h.second
    omega
  have hdecided := flushFrom_decided _ hnow hnever (by omega)
  rw [Nat.zero_add] at hdecided
  exact hdecided

/-! ## The end of a wait -/

namespace Decided

variable {status : FlushStatus} {p b : Nat}

theorem stable_iff (h : Decided size n status) :
    status = .stable p b ↔ p ≤ n ∧ Settled size p b ∧ ∀ q < p, ∀ c, ¬Settled size q c := by
  constructor
  · rintro rfl
    cases h with
    | stable inTime settled first => exact ⟨inTime, settled, first⟩
  · rintro ⟨hp, hsettled, hfirst⟩
    cases h with
    | @stable p' b' inTime settled first =>
      -- Of two looks that both settle the sizes first, none is before the other.
      obtain hlt | rfl | hgt := Nat.lt_trichotomy p' p
      · exact absurd settled (hfirst p' hlt b')
      · rw [Option.some.inj (settled.now.symm.trans hsettled.now)]
      · exact absurd hsettled (first p hgt b)
    | unstable never there => exact absurd hsettled (never p hp b)
    | missing never gone => exact absurd hsettled (never p hp b)

theorem unstable_iff (h : Decided size n status) :
    status = .unstable p b ↔
      (∀ q ≤ n, ∀ c, ¬Settled size q c) ∧ p = n ∧ size n = some b := by
  constructor
  · rintro rfl
    cases h with
    | unstable never there => exact ⟨never, rfl, there⟩
  · rintro ⟨hnever, rfl, hsize⟩
    cases h with
    | @stable p' b' inTime settled first => exact absurd settled (hnever p' inTime b')
    | unstable never there => rw [Option.some.inj (there.symm.trans hsize)]
    | missing never gone =>
      rw [gone] at hsize
      cases hsize

theorem missing_iff (h : Decided size n status) :
    status = .missing p ↔ (∀ q ≤ n, ∀ c, ¬Settled size q c) ∧ p = n ∧ size n = none := by
  constructor
  · rintro rfl
    cases h with
    | missing never gone => exact ⟨never, rfl, gone⟩
  · rintro ⟨hnever, rfl, hsize⟩
    cases h with
    | @stable p' b' inTime settled first => exact absurd settled (hnever p' inTime b')
    | unstable never there =>
      rw [there] at hsize
      cases hsize
    | missing never gone => rfl

end Decided

/-- However the log comes and goes: the wait ends at the first look that settles its size, within the
looks that are allowed. If there is none, all looks are made, and the last one decides. There is one
pause between two looks and none behind the last, so look `k` finds what is there at `k - 1` times the
interval. -/
theorem flush_decided_by_sizes (path : OsText) (policy : Config.FlushPolicy) (s : Surroundings) :
    let size := sizeSeen path policy.interval s
    let looks := max policy.attempts 1
    let r := waitForFlush path policy s
    (∀ p b, r.1 = .stable p b ↔
        p ≤ looks ∧ Settled size p b ∧ ∀ q < p, ∀ c, ¬Settled size q c) ∧
      (∀ p b, r.1 = .unstable p b ↔
        (∀ q ≤ looks, ∀ c, ¬Settled size q c) ∧ p = looks ∧ size looks = some b) ∧
      (∀ p, r.1 = .missing p ↔
        (∀ q ≤ looks, ∀ c, ¬Settled size q c) ∧ p = looks ∧ size looks = none) ∧
      r.2 = s.afterPauses policy.interval (r.1.polls - 1) ∧
      r.2.clock = s.clock + (r.1.polls - 1) * policy.interval ∧
      size 1 = s.files.size? path ∧
      (s.InOrder → ∀ k, 2 ≤ k →
        size k = (s.pause ((k - 1) * policy.interval)).files.size? path) := by
  intro size looks r
  obtain ⟨hdecided, hbehind⟩ := waitForFlush_decided path policy s
  refine ⟨fun p b => hdecided.stable_iff, fun p b => hdecided.unstable_iff,
    fun p => hdecided.missing_iff, hbehind, ?_, rfl, fun horder k hk => ?_⟩
  · rw [hbehind, Surroundings.afterPauses_clock]
  · -- Equal pauses one by one are one pause of their sum, if the events are in order.
    obtain ⟨k, rfl⟩ := Nat.exists_eq_add_of_le' hk
    show (s.afterPauses policy.interval (k + 1)).files.size? path = _
    rw [Surroundings.afterPauses_eq_pause horder]
    rfl

/-- The log has two bytes at the second look and at the fourth, but between them it is gone. It is
settled by the fifth. -/
theorem flush_decided_by_sizes_across_gap :
    let s : Surroundings :=
      { events := [⟨5, "h", .write [1, 2] false⟩, ⟨12, "h", .remove⟩,
          ⟨25, "h", .write [3, 4] false⟩] }
    let size := sizeSeen "h" 10 s
    s.InOrder ∧ size 3 = none ∧ (s.pause 20).files.size? "h" = none ∧ Settled size 5 2 ∧
      (∀ q < 5, ∀ c, ¬Settled size q c) ∧ (waitForFlush "h" ⟨7, 10⟩ s).2.clock = 40 := by
  intro s size
  have horder : s.InOrder := by decide
  have hgap : size 3 = none := by decide +kernel
  have hstatus : (waitForFlush "h" ⟨7, 10⟩ s).1 = .stable 5 2 := by decide +kernel
  obtain ⟨hstable, -, -, -, hclock, -, htime⟩ := flush_decided_by_sizes "h" ⟨7, 10⟩ s
  obtain ⟨-, hsettled, hfirst⟩ := (hstable 5 2).mp hstatus
  rw [hstatus] at hclock
  exact ⟨horder, hgap, (htime horder 3 (by decide)).symm.trans hgap, hsettled, hfirst, hclock⟩

end Harness

end HistoryAudit
