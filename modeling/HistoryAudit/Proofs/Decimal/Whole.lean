/-
  HistoryAudit.Proofs.Decimal.Whole

  Natural numbers below 2^53 as doubles. Such a number has at most as many bits
  as a double has for its significand, so shifting it there rounds nothing away,
  and back from the double comes the same number.
-/
import Mathlib

namespace HistoryAudit.Decimal

open Float.Model UnpackedFloat

/-! ## Shifting -/

theorem mantissa_shiftRight (em : ExtendedMantissa) (k : Nat) :
    (em >>> k).mantissa = em.mantissa / 2 ^ k := by
  induction k with
  | zero => exact (Nat.div_one em.mantissa).symm
  | succ k ih =>
    show (em >>> k).mantissa / 2 = _
    rw [ih, Nat.div_div_eq_div_mul, ← Nat.pow_succ]

/-- Far enough from zero, the exponent leaves 53 bits for the significand. -/
theorem targetExponent_binary64 {total : Int} (h : -1021 ≤ total) :
    Format.binary64.targetExponent total = total - 53 := by
  have hmin : Format.binary64.minExponent = -1074 := by decide
  have hbits : Format.binary64.mantissaBits = 53 := by decide
  rw [Format.targetExponent, hmin, hbits]
  omega

/-- A significand that uses all 53 bits. -/
structure Filled (m : Nat) : Prop where
  least : 2 ^ 52 ≤ m
  greatest : m < 2 ^ 53

namespace Filled

variable {m k : Nat}

theorem log2_eq (h : Filled m) : m.log2 = 52 := by
  have hm : m ≠ 0 := by
    have := h.least
    omega
  exact (Nat.log2_eq_iff hm).mpr ⟨h.least, h.greatest⟩

/-- A filled significand has the exponent that the format wants. -/
theorem targetExponent_eq (h : Filled m) (hk : k ≤ 52) :
    Format.binary64.targetExponent (totalExponent m (-(k : Int))) = -k := by
  rw [totalExponent, h.log2_eq, targetExponent_binary64 (by omega)]
  omega

theorem shiftToTargetExponent_eq (h : Filled m) (hk : k ≤ 52) :
    shiftToTargetExponent .binary64 m (-(k : Int)) .exact =
      (⟨m, false, false⟩, -(k : Int)) := by
  rw [shiftToTargetExponent, h.targetExponent_eq hk, shiftToExponent, Int.sub_self]
  show (_, -(k : Int) + 0) = _
  rw [Int.add_zero]
  rfl

/-- Nothing is rounded away. -/
theorem roundWithAccuracy_eq (h : Filled m) (hk : k ≤ 52) (hm : 0 < m) :
    roundWithAccuracy .binary64 .positive m (-(k : Int)) .exact =
      .finite .positive m (-(k : Int)) hm := by
  have hshift := h.shiftToTargetExponent_eq hk
  have hrounded : ExtendedMantissa.roundedMantissa ⟨m, false, false⟩ = m := rfl
  rw [roundWithAccuracy]
  simp only [hshift, hrounded]
  rw [dif_neg (Nat.ne_of_gt hm)]

end Filled

/-! ## There -/

theorem log2_le {n : Nat} (hpos : 0 < n) (h : n < 2 ^ 53) : n.log2 ≤ 52 :=
  Nat.le_of_lt_succ ((Nat.log2_lt (Nat.ne_of_gt hpos)).mpr h)

/-- A number is filled up by shifting it to the left. -/
theorem filled_shiftLeft {n : Nat} (hpos : 0 < n) (h : n < 2 ^ 53) :
    Filled (n <<< (52 - n.log2)) := by
  have hlow : 2 ^ n.log2 ≤ n := Nat.log2_self_le (Nat.ne_of_gt hpos)
  have hhigh : n < 2 ^ (n.log2 + 1) := Nat.lt_log2_self
  have hsum : n.log2 + (52 - n.log2) = 52 := Nat.add_sub_cancel' (log2_le hpos h)
  rw [Nat.shiftLeft_eq]
  constructor
  · calc 2 ^ 52 = 2 ^ n.log2 * 2 ^ (52 - n.log2) := by rw [← Nat.pow_add, hsum]
      _ ≤ n * 2 ^ (52 - n.log2) := Nat.mul_le_mul_right _ hlow
  · calc n * 2 ^ (52 - n.log2) < 2 ^ (n.log2 + 1) * 2 ^ (52 - n.log2) :=
          Nat.mul_lt_mul_of_pos_right hhigh (Nat.two_pow_pos _)
      _ = 2 ^ 53 := by rw [← Nat.pow_add, Nat.add_right_comm, hsum]

/-- As a double, a number is filled up, and its exponent takes the shift back. -/
theorem ofNat_eq {n : Nat} (hpos : 0 < n) (h : n < 2 ^ 53) (hm : 0 < n <<< (52 - n.log2)) :
    UnpackedFloat.ofNat .binary64 n =
      .finite .positive (n <<< (52 - n.log2)) (-(52 - n.log2 : Nat)) hm := by
  have hlog := log2_le hpos h
  have htarget : Format.binary64.targetExponent (totalExponent n 0) = -(52 - n.log2 : Nat) := by
    rw [totalExponent, targetExponent_binary64 (by omega)]
    omega
  have hcompare : compare (n : Int) 0 = .gt := Int.compare_eq_gt.mpr (by omega)
  rw [UnpackedFloat.ofNat, UnpackedFloat.ofInt, UnpackedFloat.normalize, hcompare]
  show UnpackedFloat.round _ _ n 0 = _
  rw [UnpackedFloat.round, htarget, decreaseExponent]
  simp only [Int.zero_sub, Int.neg_neg, Int.toNat_natCast]
  exact (filled_shiftLeft hpos h).roundWithAccuracy_eq (by omega) hm

/-! ## And back -/

theorem unpackSign_packComponents {spec : Format} {sign : Sign} {exponent mantissa} :
    unpackSign (packComponents spec sign exponent mantissa) = sign.toBitVec := by
  ext i hi
  obtain rfl : i = 0 := by omega
  simp [unpackSign, packComponents, BitVec.getLsbD_append, BitVec.getElem_append]

/-- The bit that a double leaves out is put in front again. -/
theorem Filled.toNat_implicit {m : Nat} (h : Filled m) :
    (1#1 ++ BitVec.ofNat 52 m).toNat = m := by
  have hrest : m % 2 ^ 52 = m - 2 ^ 52 := by
    have hleast := h.least
    have hgreatest := h.greatest
    omega
  rw [BitVec.toNat_append, ← Nat.shiftLeft_add_eq_or_of_lt (BitVec.isLt _), BitVec.toNat_ofNat,
    BitVec.toNat_ofNat, hrest, Nat.shiftLeft_eq, Nat.mod_eq_of_lt Nat.one_lt_two, Nat.one_mul]
  exact Nat.add_sub_cancel' h.least

/-- A filled significand is packed without its first bit, and unpacked with it. -/
theorem Filled.unpack_pack {m k : Nat} (h : Filled m) (hk : k ≤ 52) (hm : 0 < m) :
    UnpackedFloat.unpack .binary64
        (UnpackedFloat.pack .binary64 (.finite .positive m (-(k : Int)) hm)) =
      .finite .positive m (-(k : Int)) hm := by
  have hbias : Format.binary64.exponentBias = 1023 := by decide
  have hbiased : (-(k : Int) + Format.binary64.exponentBias + (52 : Nat)).toNat = 1075 - k := by
    rw [hbias]
    omega
  have hpack : UnpackedFloat.pack .binary64 (.finite .positive m (-(k : Int)) hm) =
      packComponents .binary64 .positive (BitVec.ofNat 11 (1075 - k)) (BitVec.ofNat 52 m) := by
    have hroom : ¬2 ^ 11 ≤ 1075 - k + 1 := by omega
    rw [UnpackedFloat.pack]
    simp only [hbiased, h.log2_eq, if_neg hroom]
    exact if_pos (by decide)
  have hexponent : (BitVec.ofNat 11 (1075 - k)).toNat = 1075 - k := by
    rw [BitVec.toNat_ofNat, Nat.mod_eq_of_lt (by omega)]
  -- Neither of the exponents that stand for something else.
  have hfinite : BitVec.ofNat 11 (1075 - k) ≠ -1#11 := by
    intro heq
    have htop := hexponent.symm.trans (congrArg BitVec.toNat heq)
    have hall : (-1#11).toNat = 2047 := by decide
    omega
  have hnormal : BitVec.ofNat 11 (1075 - k) ≠ 0#11 := by
    intro heq
    have hbottom := hexponent.symm.trans (congrArg BitVec.toNat heq)
    have hnone : (0#11).toNat = 0 := rfl
    omega
  have hback : ((1075 - k : Nat) : Int) - (Format.binary64.exponentBias + (52 : Nat)) = -k := by
    rw [hbias]
    omega
  rw [hpack, UnpackedFloat.unpack]
  simp only [unpackMantissa_packComponents, unpackExponent_packComponents,
    unpackSign_packComponents, h.toNat_implicit, if_neg hfinite, if_neg hnormal, hexponent, hback]
  rfl

/-- What was shifted to the left is shifted back. -/
theorem roundToInt_shiftLeft (n k : Nat) : roundToInt .positive (n <<< k) (-(k : Int)) = n := by
  have hdown : decreaseExponent (n <<< k) (-(k : Int)) 0 = (n <<< k, -(k : Int)) := by
    have hnone : (-(k : Int) - 0).toNat = 0 := by omega
    rw [decreaseExponent, hnone]
    simp
  have hup : (0 - -(k : Int)).toNat = k := by omega
  rw [roundToInt, hdown]
  simp only [shiftToExponent, hup, mantissa_shiftRight]
  show ((n <<< k / 2 ^ k : Nat) : Int) = n
  rw [Nat.shiftLeft_eq, Nat.mul_div_cancel n (Nat.two_pow_pos k)]

/-- A natural number of at most 53 bits, as a double and back. -/
theorem toUInt64_toFloat {n : Nat} (h : n < 2 ^ 53) :
    n.toUInt64.toFloat.toUInt64.toNat = n := by
  have hword : n.toUInt64.toNat = n := UInt64.toNat_ofNat_of_lt' (by
    show n < 2 ^ 64
    omega)
  -- The shifted mantissa fills all bits, so nothing is lost by rounding.
  have hread : (UnpackedFloat.unpack .binary64 (UnpackedFloat.pack .binary64
      (UnpackedFloat.ofNat .binary64 n))).toInt 0 (UInt64.size - 1) = n := by
    by_cases hzero : n = 0
    · subst hzero
      decide
    · have hpos : 0 < n := Nat.pos_of_ne_zero hzero
      have hfilled := filled_shiftLeft hpos h
      have hm : 0 < n <<< (52 - n.log2) := Nat.lt_of_lt_of_le (Nat.two_pow_pos 52) hfilled.least
      rw [ofNat_eq hpos h hm, hfilled.unpack_pack (by omega) hm]
      exact roundToInt_shiftLeft n _
  show (UInt64.ofNatClamp ((UnpackedFloat.unpack .binary64 (UnpackedFloat.pack .binary64
    (UnpackedFloat.ofNat .binary64 n.toUInt64.toNat))).toInt 0 (UInt64.size - 1)).toNat).toNat = n
  rw [hword, hread, Int.toNat_natCast]
  exact UInt64.toNat_ofNatClamp_of_lt (by
    show n < 2 ^ 64
    omega)

end HistoryAudit.Decimal
