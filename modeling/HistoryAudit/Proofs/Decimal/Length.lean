/-
  HistoryAudit.Proofs.Decimal.Length

  How long a double can be in print. The grid on which its digits are found has a
  step of no less than `10^-17` times its leading digit, so there are at most
  twenty digits (`shortest_bounds`). The exponent is that of the leading digit,
  moved by no more than the grid and the zeros at the end allow, and the zeros that
  positional notation adds are few, because it is used near the point only.
-/
import HistoryAudit.Decimal.Shortest
import Mathlib.Data.Nat.Digits.Defs
import Mathlib.Tactic.Ring

namespace HistoryAudit.Decimal

theorem length_toDigits_pos (n : Nat) : 0 < (Nat.toDigits 10 n).length :=
  List.length_pos_iff.mpr Nat.toDigits_ne_nil

theorem lt_pow_length_toDigits (n : Nat) : n < 10 ^ (Nat.toDigits 10 n).length :=
  (Nat.length_toDigits_le_iff (by decide) (length_toDigits_pos n)).mp (Nat.le_refl _)

/-! ## The leading digit -/

/-- No place before the one that was found holds a digit. -/
theorem leadingZeros_spec {n d : Nat} (fuel start : Nat) (h : n * 10 ^ (start - 1) < d) :
    n * 10 ^ (leadingZeros n d fuel start - 1) < d := by
  induction fuel generalizing start with
  | zero => exact h
  | succ fuel ih =>
    rw [leadingZeros]
    split
    · exact h
    · rename_i hsmall
      exact ih (start + 1) (Nat.lt_of_not_le hsmall)

theorem leadingZeros_bounds (n d fuel start : Nat) :
    start ≤ leadingZeros n d fuel start ∧ leadingZeros n d fuel start ≤ start + fuel := by
  induction fuel generalizing start with
  | zero => exact ⟨Nat.le_refl _, Nat.le_refl _⟩
  | succ fuel ih =>
    rw [leadingZeros]
    split
    · exact ⟨Nat.le_refl _, Nat.le_add_right _ _⟩
    · have hrest := ih (start + 1)
      omega

namespace Rounding

variable {r : Rounding} {g : Int} {t : Nat}

/-- The value is below `10^g`. -/
def Below (r : Rounding) (g : Int) : Prop :=
  r.value * 10 ^ (-g).toNat < r.den * 10 ^ g.toNat

theorem below_magnitude (hden : 0 < r.den) : r.Below (r.magnitude + 1) := by
  rw [Below, magnitude]
  split
  · -- There is a whole part, and its digits were counted.
    have hcancel : (wholeDigits r.value r.den : Int) - 1 + 1 = wholeDigits r.value r.den := by omega
    have hneg : (-(wholeDigits r.value r.den : Int)).toNat = 0 := by omega
    have hlt : r.value / r.den < 10 ^ wholeDigits r.value r.den :=
      lt_pow_length_toDigits (r.value / r.den)
    rw [hcancel, hneg, Int.toNat_natCast, Nat.pow_zero, Nat.mul_one]
    exact Nat.mul_comm r.den _ ▸ (Nat.div_lt_iff_lt_mul hden).mp hlt
  · -- There is none, and the place of the first digit was searched for.
    rename_i hsmall
    have hspec := leadingZeros_spec (n := r.value) (d := r.den) 400 1
      (by rw [Nat.pow_zero, Nat.mul_one]; exact Nat.lt_of_not_le hsmall)
    have hbounds := leadingZeros_bounds r.value r.den 400 1
    have hup : (-(-(leadingZeros r.value r.den 400 1 : Int) + 1)).toNat =
        leadingZeros r.value r.den 400 1 - 1 := by omega
    have hdown : (-(leadingZeros r.value r.den 400 1 : Int) + 1).toNat = 0 := by omega
    rw [hup, hdown, Nat.pow_zero, Nat.mul_one]
    exact hspec

/-- Below a coarser power of ten there are so many steps of a finer grid. -/
theorem Below.refine (h : r.Below g) (n : Nat) :
    r.value * 10 ^ (-(g - n)).toNat < 10 ^ n * (r.den * 10 ^ (g - n).toNat) := by
  -- Of the `n` steps, `a` are made below the point and `b` above it.
  obtain ⟨a, ha⟩ : ∃ a, (-(g - n)).toNat = (-g).toNat + a := Nat.exists_eq_add_of_le (by omega)
  obtain ⟨b, hb⟩ : ∃ b, g.toNat = (g - n).toNat + b := Nat.exists_eq_add_of_le (by omega)
  have hsum : b + a = n := by omega
  have hscaled : r.value * 10 ^ (-g).toNat * 10 ^ a < r.den * 10 ^ g.toNat * 10 ^ a :=
    Nat.mul_lt_mul_of_pos_right h (Nat.pow_pos (by decide))
  calc r.value * 10 ^ (-(g - n)).toNat
      = r.value * 10 ^ (-g).toNat * 10 ^ a := by rw [ha, Nat.pow_add, Nat.mul_assoc]
    _ < r.den * 10 ^ g.toNat * 10 ^ a := hscaled
    _ = 10 ^ (b + a) * (r.den * 10 ^ (g - n).toNat) := by
      rw [hb, Nat.pow_add, Nat.pow_add]
      ring
    _ = 10 ^ n * (r.den * 10 ^ (g - n).toNat) := by rw [hsum]

/-- A point of a grid that rounds to the value is next to it. -/
theorem gridPoint?_le (h : r.gridPoint? g = some t) :
    t ≤ r.value * 10 ^ (-g).toNat / (r.den * 10 ^ g.toNat) + 1 := by
  rw [gridPoint?] at h
  split at h
  · split at h
    · obtain rfl := Option.some.inj h
      exact Nat.le_succ _
    · obtain rfl := Option.some.inj h
      exact Nat.le_refl _
  · obtain rfl := Option.some.inj h
    exact Nat.le_succ _
  · obtain rfl := Option.some.inj h
    exact Nat.le_refl _
  · cases h

theorem gridPoint?_le_pow (hbelow : r.Below g) (n : Nat) (h : r.gridPoint? (g - n) = some t) :
    t ≤ 10 ^ n := by
  have hlt := hbelow.refine n
  have hpos : 0 < r.den * 10 ^ (g - n).toNat := by
    rcases Nat.eq_zero_or_pos (r.den * 10 ^ (g - n).toNat) with hzero | hpos
    · rw [hzero, Nat.mul_zero] at hlt
      exact absurd hlt (Nat.not_lt_zero _)
    · exact hpos
  have hdiv := (Nat.div_lt_iff_lt_mul hpos).mpr hlt
  exact Nat.le_trans (gridPoint?_le h) hdiv

/-- The digits of the coarsest grid. The grids that were tried before are `n` steps below `g`. -/
theorem coarsest_bounds (hbelow : r.Below g) (tries n : Nat) :
    (r.coarsest tries (g - n)).digits ≤ 10 ^ (n + tries) ∧
      g - (n + tries : Nat) ≤ (r.coarsest tries (g - n)).exponent ∧
        (r.coarsest tries (g - n)).exponent ≤ g := by
  -- On the tries that are left. A grid that was of no use is followed by the next finer one.
  induction tries generalizing n with
  | zero =>
    rw [coarsest]
    refine ⟨Nat.zero_le _, Int.le_refl _, ?_⟩
    show g - (n : Int) ≤ g
    omega
  | succ tries ih =>
    rw [coarsest]
    split
    · rename_i t hpoint
      have hle := gridPoint?_le_pow hbelow n hpoint
      refine ⟨Nat.le_trans hle (Nat.pow_le_pow_right (by decide) (Nat.le_add_right _ _)), ?_, ?_⟩
      · show g - ((n + (tries + 1) : Nat) : Int) ≤ g - (n : Int)
        omega
      · show g - (n : Int) ≤ g
        omega
    · have hnext : g - (n : Int) - 1 = g - ((n + 1 : Nat) : Int) := by omega
      have hcount : n + (tries + 1) = n + 1 + tries := by omega
      rw [hnext, hcount]
      exact ih (n + 1)

end Rounding

theorem trim_bounds (fuel : Nat) (s : Scientific) :
    (s.trim fuel).digits ≤ s.digits ∧ s.exponent ≤ (s.trim fuel).exponent ∧
      (s.trim fuel).exponent ≤ s.exponent + fuel := by
  induction fuel generalizing s with
  | zero => exact ⟨Nat.le_refl _, Int.le_refl _, by rw [Scientific.trim]; omega⟩
  | succ fuel ih =>
    rw [Scientific.trim]
    split
    · have hrest := ih ⟨s.digits / 10, s.exponent + 1⟩
      have hdiv : s.digits / 10 ≤ s.digits := Nat.div_le_self _ _
      simp only at hrest
      omega
    · omega

/-! ## The shortest decimal -/

/-- A significand and an exponent that a double can have. -/
structure InRange (m : Nat) (q : Int) : Prop where
  significand : m < 2 ^ 53
  exponent : q ≤ 972

theorem inRange_parts (bits : UInt64) : InRange (parts bits).1 (parts bits).2 := by
  have hfraction : bits.toNat % Nat.pow 2 52 < 2 ^ 52 := Nat.mod_lt _ (by decide)
  have hfield : bits.toNat / Nat.pow 2 52 % Nat.pow 2 11 < 2 ^ 11 := Nat.mod_lt _ (by decide)
  rw [parts]
  split
  · exact ⟨by omega, by omega⟩
  · refine ⟨?_, ?_⟩
    · show bits.toNat % Nat.pow 2 52 + 2 ^ 52 < 2 ^ 53
      omega
    · show ((bits.toNat / Nat.pow 2 52 % Nat.pow 2 11 : Nat) : Int) - 1075 ≤ 972
      omega

theorem magnitude_bounds {m : Nat} {q : Int} (h : InRange m q) :
    -401 ≤ (Rounding.of m q).magnitude ∧ (Rounding.of m q).magnitude < 1025 := by
  rw [Rounding.magnitude]
  split
  · have hm := h.significand
    have hq := h.exponent
    -- Each factor of two counts as one of ten.
    have hvalue : (Rounding.of m q).value < 10 ^ (55 + (q - 2).toNat) := by
      calc 4 * m * 2 ^ (q - 2).toNat
          < 2 ^ 55 * 2 ^ (q - 2).toNat :=
            Nat.mul_lt_mul_of_pos_right (by omega) (Nat.pow_pos (by decide))
        _ = 2 ^ (55 + (q - 2).toNat) := (Nat.pow_add 2 55 _).symm
        _ ≤ 10 ^ (55 + (q - 2).toNat) := Nat.pow_le_pow_left (by decide) _
    have hlength : wholeDigits (Rounding.of m q).value (Rounding.of m q).den ≤
        55 + (q - 2).toNat :=
      (Nat.length_toDigits_le_iff (by decide) (by omega)).mpr
        (Nat.lt_of_le_of_lt (Nat.div_le_self _ _) hvalue)
    omega
  · have hbounds := leadingZeros_bounds (Rounding.of m q).value (Rounding.of m q).den 400 1
    omega

/-- The digits of a double, and the exponent of the last one. -/
theorem shortest_bounds {m : Nat} {q : Int} (h : InRange m q) :
    (shortest m q).digits ≤ 10 ^ 19 ∧ -419 ≤ (shortest m q).exponent ∧
      (shortest m q).exponent ≤ 1045 := by
  have hden : 0 < (Rounding.of m q).den := Nat.pow_pos (by decide)
  have hmagnitude := magnitude_bounds h
  have hcoarsest := Rounding.coarsest_bounds (Rounding.below_magnitude hden) 18 1
  have htrim := trim_bounds 20 ((Rounding.of m q).coarsest 18 (Rounding.of m q).magnitude)
  have hgrid : (Rounding.of m q).magnitude + 1 - ((1 : Nat) : Int) = (Rounding.of m q).magnitude := by
    omega
  rw [hgrid] at hcoarsest
  rw [shortest]
  omega

/-! ## Print -/

section Print

variable {s : Scientific}

/-- Positional notation of a number that is neither great nor small. -/
theorem length_positional_le
    (hleast : -5 ≤ ((Nat.toDigits 10 s.digits).length : Int) + s.exponent - 1)
    (hgreatest : ((Nat.toDigits 10 s.digits).length : Int) + s.exponent - 1 < 16) :
    (positional s).length ≤ (Nat.toDigits 10 s.digits).length + 18 := by
  rw [positional]
  split
  · rw [String.length_ofList]
    simp only [List.length_append, List.length_replicate, List.length_cons, List.length_nil]
    omega
  · split
    · rw [String.length_ofList]
      simp only [List.length_append, List.length_take, List.length_cons, List.length_drop]
      omega
    · rw [String.length_ofList]
      simp only [List.length_append, List.length_replicate, List.length_cons]
      omega

theorem length_scientific_le
    (h : (((Nat.toDigits 10 s.digits).length : Int) + s.exponent - 1).natAbs < 10 ^ 4) :
    (scientific s).length ≤ (Nat.toDigits 10 s.digits).length + 7 := by
  -- The exponent takes a sign, a letter and four digits at most.
  have hscaled : ∀ (mantissa : String) (exponent : Int), exponent.natAbs < 10 ^ 4 →
      (if exponent < 0 then s!"{mantissa}e-{exponent.natAbs}"
        else s!"{mantissa}e+{exponent.natAbs}").length ≤ mantissa.length + 6 := by
    intro mantissa exponent hsmall
    have hexponent : (toString exponent.natAbs).length ≤ 4 := by
      rw [Nat.toString_eq_ofList_toDigits, String.length_ofList]
      exact (Nat.length_toDigits_le_iff (by decide) (by decide)).mpr hsmall
    split
    · show (mantissa ++ "e-" ++ toString exponent.natAbs).length ≤ _
      rw [String.length_append, String.length_append]
      exact Nat.add_le_add_left hexponent _
    · show (mantissa ++ "e+" ++ toString exponent.natAbs).length ≤ _
      rw [String.length_append, String.length_append]
      exact Nat.add_le_add_left hexponent _
  refine Nat.le_trans (hscaled _ _ h) (Nat.add_le_add_right ?_ 6)
  split
  · rename_i d e rest heq
    rw [heq, String.length_ofList]
    exact Nat.le_refl _
  · rw [String.length_ofList]
    exact Nat.le_succ _

end Print

/-- No double takes more than 40 characters. -/
theorem length_text_le (f : Float) : (text f).length ≤ 40 := by
  have hsign : (if f.toBits.toNat ≥ Nat.pow 2 63 then "-" else "").length ≤ 1 := by
    split
    · exact Nat.le_refl 1
    · exact Nat.zero_le 1
  rw [text]
  split
  · rw [String.length_append]
    exact Nat.le_trans (Nat.add_le_add_right hsign _) (by decide)
  · obtain ⟨hdigits, hleast, hgreatest⟩ :=
      shortest_bounds (inRange_parts (f.toBits &&& 0x7fffffffffffffff))
    rw [String.length_append]
    refine Nat.le_trans (Nat.add_le_add_right hsign _) ?_
    -- There are twenty digits at most, and the notations add no more than eighteen characters.
    have hlength := (Nat.length_toDigits_le_iff (k := 20) (by decide) (by decide)).mpr
      (Nat.lt_of_le_of_lt hdigits (Nat.pow_lt_pow_right (by decide) (by decide)))
    have hpos := length_toDigits_pos (shortest (parts (f.toBits &&& 0x7fffffffffffffff)).1
      (parts (f.toBits &&& 0x7fffffffffffffff)).2).digits
    split
    · rename_i hnear
      have hpositional := length_positional_le hnear.1 hnear.2
      omega
    · have hscientific := length_scientific_le
        (s := shortest (parts (f.toBits &&& 0x7fffffffffffffff)).1
          (parts (f.toBits &&& 0x7fffffffffffffff)).2) (by omega)
      omega

end HistoryAudit.Decimal
