/-
  HistoryAudit.Proofs.Text.Utf8

  Reading what was written: one step takes the bytes of a character and gives
  the character back (`step_utf8EncodeChar`), so the readings of an encoded text,
  lenient and strict, are the text (`lossy_encode`, `decode_encode`).
-/
import HistoryAudit.Text.Utf8
import Mathlib.Data.List.Basic

namespace HistoryAudit.Text.Utf8

/-! ## One character -/

theorem toNat_ofNat_byte {n : Nat} (h : n < 256) : (UInt8.ofNat n).toNat = n := by
  rw [UInt8.toNat_ofNat', Nat.mod_eq_of_lt h]

/-- A continuation byte in its range adds six bits. -/
theorem continuation_cons {t : Tail} {n : Nat} (ts : List Tail) (acc size : Nat)
    (bs : List UInt8) (hlo : t.lo ≤ n) (hhi : n ≤ t.hi) (hn : n < 256) :
    continuation (t :: ts) acc size (UInt8.ofNat n :: bs) =
      continuation ts (acc * 64 + (n - 0x80)) (size + 1) bs := by
  rw [continuation, toNat_ofNat_byte hn, if_pos ⟨hlo, hhi⟩]

section Lead

variable {n : Nat}

theorem lead?_of_lt (h : n < 0x80) : lead? (UInt8.ofNat n) = some ([], n) := by
  rw [lead?, toNat_ofNat_byte (by omega)]
  exact if_pos h

theorem lead?_two (hlo : 0xc2 ≤ n) (hhi : n < 0xe0) :
    lead? (UInt8.ofNat n) = some ([.plain], n - 0xc0) := by
  rw [lead?, toNat_ofNat_byte (by omega)]
  simp only
  rw [if_neg (by omega), if_neg (by omega), if_pos hhi]

theorem lead?_three (hlo : 0xe0 ≤ n) (hhi : n < 0xf0) :
    lead? (UInt8.ofNat n) =
      some ([if n = 0xe0 then ⟨0xa0, 0xbf⟩ else if n = 0xed then ⟨0x80, 0x9f⟩ else .plain, .plain],
        n - 0xe0) := by
  rw [lead?, toNat_ofNat_byte (by omega)]
  simp only
  rw [if_neg (by omega), if_neg (by omega), if_neg (by omega), if_pos hhi]

theorem lead?_four (hlo : 0xf0 ≤ n) (hhi : n < 0xf5) :
    lead? (UInt8.ofNat n) =
      some ([if n = 0xf0 then ⟨0x90, 0xbf⟩ else if n = 0xf4 then ⟨0x80, 0x8f⟩ else .plain, .plain,
        .plain], n - 0xf0) := by
  rw [lead?, toNat_ofNat_byte (by omega)]
  simp only
  rw [if_neg (by omega), if_neg (by omega), if_neg (by omega), if_neg (by omega), if_pos hhi]

end Lead

theorem char_ofNat_eq (c : Char) {n : Nat} (h : n = c.toNat) : Char.ofNat n = c := by
  rw [h, Char.ofNat_toNat]

theorem toNat_valid (c : Char) : c.toNat < 0xd800 ∨ 0xdfff < c.toNat ∧ c.toNat < 0x110000 :=
  c.valid

/-- Every continuation byte adds six bits. -/
theorem continuation_ge {tails : List Tail} {acc size n : Nat} {bs : List UInt8} {c : Char}
    (h : continuation tails acc size bs = .char c n) :
    ∃ m, c = Char.ofNat m ∧ acc * Nat.pow 64 tails.length ≤ m := by
  -- By the continuation bytes that are still to come.
  induction tails generalizing acc size bs with
  | nil =>
    cases h
    exact ⟨acc, rfl, Nat.le_of_eq (Nat.mul_one acc)⟩
  | cons t ts ih =>
    cases bs with
    | nil => cases h
    | cons b bs =>
      rw [continuation] at h
      split at h
      · obtain ⟨m, hc, hm⟩ := ih h
        refine ⟨m, hc, Nat.le_trans ?_ hm⟩
        have hpow : Nat.pow 64 (t :: ts).length = 64 * Nat.pow 64 ts.length :=
          Nat.pow_succ'
        rw [hpow, ← Nat.mul_assoc]
        exact Nat.mul_le_mul_right _ (Nat.le_add_right _ _)
      · cases h

/-- The first continuation byte has its least value. -/
theorem continuation_cons_ge {t : Tail} {ts : List Tail} {acc size n : Nat} {bs : List UInt8}
    {c : Char} (h : continuation (t :: ts) acc size bs = .char c n) :
    ∃ m, c = Char.ofNat m ∧ (acc * 64 + (t.lo - 0x80)) * Nat.pow 64 ts.length ≤ m := by
  cases bs with
  | nil => cases h
  | cons b bs =>
    rw [continuation] at h
    split at h
    · rename_i hb
      obtain ⟨m, hc, hm⟩ := continuation_ge h
      have hlo := hb.1
      exact ⟨m, hc, Nat.le_trans (Nat.mul_le_mul_right _ (by omega)) hm⟩
    · cases h

/-- A byte above the ASCII range begins no ASCII character, unless the value is none of a
character. -/
theorem step_of_le {b : UInt8} {bs : List UInt8} {c : Char} {n : Nat} (hb : 0x80 ≤ b.toNat)
    (h : step b bs = .char c n) : ∃ m, c = Char.ofNat m ∧ 0x80 ≤ m := by
  rw [step] at h
  split at h
  · rename_i tails acc hlead
    rw [lead?] at hlead
    simp only at hlead
    repeat' split at hlead
    -- Each kind of first byte has its own least value.
    all_goals cases hlead
    all_goals first
      | omega
      | obtain ⟨m, hc, hm⟩ := continuation_cons_ge h
        refine ⟨m, hc, ?_⟩
        simp only [Tail.plain, List.length_cons, List.length_nil, Nat.pow_eq] at hm
        omega
  · cases h

/-- One step takes the bytes of a character, whatever stands behind them. -/
theorem step_utf8EncodeChar (c : Char) :
    ∃ b bs, String.utf8EncodeChar c = b :: bs ∧
      ∀ rest, step b (bs ++ rest) = .char c (bs.length + 1) := by
  have hvalid := toNat_valid c
  by_cases h1 : c.toNat ≤ 0x7f
  · refine ⟨UInt8.ofNat c.toNat, [], if_pos h1, fun rest => ?_⟩
    rw [step, lead?_of_lt (by omega)]
    simp only [continuation, List.length_nil, Nat.zero_add, Char.ofNat_toNat]
  by_cases h2 : c.toNat ≤ 0x7ff
  · refine ⟨UInt8.ofNat (c.toNat / 64 % 0x20 + 0xc0), [UInt8.ofNat (c.toNat % 0x40 + 0x80)],
      (if_neg h1).trans (if_pos h2), fun rest => ?_⟩
    rw [step, lead?_two (by omega) (by omega)]
    simp only [List.cons_append, List.nil_append]
    rw [continuation_cons _ _ _ _ (by simp only [Tail.plain]; omega)
      (by simp only [Tail.plain]; omega) (by omega), continuation, char_ofNat_eq c (by omega)]
    rfl
  by_cases h3 : c.toNat ≤ 0xffff
  · refine ⟨UInt8.ofNat (c.toNat / 4096 % 0x10 + 0xe0),
      [UInt8.ofNat (c.toNat / 64 % 0x40 + 0x80), UInt8.ofNat (c.toNat % 0x40 + 0x80)],
      (if_neg h1).trans ((if_neg h2).trans (if_pos h3)), fun rest => ?_⟩
    rw [step, lead?_three (by omega) (by omega)]
    simp only [List.cons_append, List.nil_append]
    -- The range of the second byte excludes long forms and surrogates, which are no characters.
    rw [continuation_cons _ _ _ _ (by simp only [Tail.plain]; split_ifs <;> simp only <;> omega)
        (by simp only [Tail.plain]; split_ifs <;> simp only <;> omega) (by omega),
      continuation_cons _ _ _ _ (by simp only [Tail.plain]; omega)
        (by simp only [Tail.plain]; omega) (by omega), continuation, char_ofNat_eq c (by omega)]
    rfl
  · refine ⟨UInt8.ofNat (c.toNat / 262144 % 0x08 + 0xf0),
      [UInt8.ofNat (c.toNat / 4096 % 0x40 + 0x80), UInt8.ofNat (c.toNat / 64 % 0x40 + 0x80),
        UInt8.ofNat (c.toNat % 0x40 + 0x80)],
      (if_neg h1).trans ((if_neg h2).trans (if_neg h3)), fun rest => ?_⟩
    rw [step, lead?_four (by omega) (by omega)]
    simp only [List.cons_append, List.nil_append]
    rw [continuation_cons _ _ _ _ (by simp only [Tail.plain]; split_ifs <;> simp only <;> omega)
        (by simp only [Tail.plain]; split_ifs <;> simp only <;> omega) (by omega),
      continuation_cons _ _ _ _ (by simp only [Tail.plain]; omega)
        (by simp only [Tail.plain]; omega) (by omega),
      continuation_cons _ _ _ _ (by simp only [Tail.plain]; omega)
        (by simp only [Tail.plain]; omega) (by omega), continuation, char_ofNat_eq c (by omega)]
    rfl

/-- The bytes of a character beyond ASCII are beyond ASCII, and none is above the first bytes of
four. -/
theorem mem_utf8EncodeChar {c : Char} (hc : ¬c.toNat ≤ 0x7f) :
    ∀ b ∈ String.utf8EncodeChar c, 0x80 ≤ b.toNat ∧ b.toNat < 0xf8 := by
  -- By the length of the encoding: two, three or four bytes.
  by_cases h2 : c.toNat ≤ 0x7ff
  · have hbytes : String.utf8EncodeChar c =
        [UInt8.ofNat (c.toNat / 64 % 0x20 + 0xc0), UInt8.ofNat (c.toNat % 0x40 + 0x80)] :=
      (if_neg hc).trans (if_pos h2)
    simp only [hbytes, List.forall_mem_cons, UInt8.toNat_ofNat']
    exact ⟨by omega, by omega, fun b hb => absurd hb List.not_mem_nil⟩
  by_cases h3 : c.toNat ≤ 0xffff
  · have hbytes : String.utf8EncodeChar c =
        [UInt8.ofNat (c.toNat / 4096 % 0x10 + 0xe0), UInt8.ofNat (c.toNat / 64 % 0x40 + 0x80),
          UInt8.ofNat (c.toNat % 0x40 + 0x80)] :=
      (if_neg hc).trans ((if_neg h2).trans (if_pos h3))
    simp only [hbytes, List.forall_mem_cons, UInt8.toNat_ofNat']
    exact ⟨by omega, by omega, by omega, fun b hb => absurd hb List.not_mem_nil⟩
  · have hbytes : String.utf8EncodeChar c =
        [UInt8.ofNat (c.toNat / 262144 % 0x08 + 0xf0), UInt8.ofNat (c.toNat / 4096 % 0x40 + 0x80),
          UInt8.ofNat (c.toNat / 64 % 0x40 + 0x80), UInt8.ofNat (c.toNat % 0x40 + 0x80)] :=
      (if_neg hc).trans ((if_neg h2).trans (if_neg h3))
    simp only [hbytes, List.forall_mem_cons, UInt8.toNat_ofNat']
    exact ⟨by omega, by omega, by omega, by omega, fun b hb => absurd hb List.not_mem_nil⟩

/-- A byte that belongs to no character beyond ASCII stands in a text only for its own character. -/
theorem toNat_eq_of_mem_utf8EncodeChar {c : Char} {b : UInt8} (hb : b ∈ String.utf8EncodeChar c)
    (hout : b.toNat < 0x80 ∨ 0xf8 ≤ b.toNat) : c.toNat = b.toNat ∧ c.toNat ≤ 0x7f := by
  by_cases hascii : c.toNat ≤ 0x7f
  · have hbytes : String.utf8EncodeChar c = [UInt8.ofNat c.toNat] := if_pos hascii
    rw [hbytes, List.mem_singleton] at hb
    exact ⟨by rw [hb, toNat_ofNat_byte (by omega)], hascii⟩
  · have hrange := mem_utf8EncodeChar hascii b hb
    omega

/-! ## Texts -/

theorem encode_append (s t : String) : encode (s ++ t) = encode s ++ encode t := by
  rw [encode, String.toList_append, List.flatMap_append]
  rfl

/-- Only a line feed is encoded with the byte of a line feed. -/
theorem newline_notMem_encode {s : String} (h : '\n' ∉ s.toList) : 10 ∉ encode s := by
  rw [encode, List.mem_flatMap]
  rintro ⟨c, hc, hb⟩
  obtain ⟨hnat, -⟩ := toNat_eq_of_mem_utf8EncodeChar hb (.inl (by decide))
  exact h (char_ofNat_eq c hnat.symm ▸ hc)

/-- The last byte value stands in no text. -/
theorem last_byte_notMem_encode (s : String) : 255 ∉ encode s := by
  rw [encode, List.mem_flatMap]
  rintro ⟨c, -, hb⟩
  obtain ⟨hnat, hascii⟩ := toNat_eq_of_mem_utf8EncodeChar hb (.inr (by decide))
  rw [hnat] at hascii
  exact absurd hascii (by decide)

/-- The lenient reading of bytes has characters if there are bytes. -/
theorem eq_nil_of_lossy {bytes : List UInt8} (h : lossy bytes = "") : bytes = [] := by
  cases bytes with
  | nil => rfl
  | cons b bs =>
    have hchars : lossyFrom (bs.length + 1) (b :: bs) = [] := by
      rw [← String.toList_ofList (l := lossyFrom (bs.length + 1) (b :: bs))]
      exact congrArg String.toList h
    rw [lossyFrom] at hchars
    split at hchars <;> cases hchars

/-- The lenient reading of encoded characters gives them back. -/
theorem lossyFrom_flatMap (cs : List Char) (fuel : Nat)
    (h : (cs.flatMap String.utf8EncodeChar).length ≤ fuel) :
    lossyFrom fuel (cs.flatMap String.utf8EncodeChar) = cs := by
  induction cs generalizing fuel with
  | nil => cases fuel <;> rfl
  | cons c cs ih =>
    obtain ⟨b, bs, hc, hstep⟩ := step_utf8EncodeChar c
    rw [List.flatMap_cons, hc, List.cons_append] at h ⊢
    cases fuel with
    | zero => exact absurd h (Nat.not_succ_le_zero _)
    | succ fuel =>
      rw [List.length_cons, List.length_append] at h
      rw [lossyFrom, hstep]
      simp only [Nat.add_sub_cancel, List.drop_left]
      rw [ih fuel (by omega)]

theorem lossy_encode (s : String) : lossy (encode s) = s := by
  rw [lossy, encode, lossyFrom_flatMap s.toList _ (Nat.le_refl _), String.ofList_toList]

/-- The strict reading of encoded characters gives them back, too. -/
theorem decodeFrom_flatMap (cs : List Char) (fuel offset : Nat)
    (h : (cs.flatMap String.utf8EncodeChar).length ≤ fuel) :
    decodeFrom fuel offset (cs.flatMap String.utf8EncodeChar) = .ok cs := by
  induction cs generalizing fuel offset with
  | nil => cases fuel <;> rfl
  | cons c cs ih =>
    obtain ⟨b, bs, hc, hstep⟩ := step_utf8EncodeChar c
    rw [List.flatMap_cons, hc, List.cons_append] at h ⊢
    cases fuel with
    | zero => exact absurd h (Nat.not_succ_le_zero _)
    | succ fuel =>
      rw [List.length_cons, List.length_append] at h
      rw [decodeFrom, hstep]
      simp only [Nat.add_sub_cancel, List.drop_left]
      rw [ih fuel _ (by omega)]

theorem decode_encode (s : String) : decode (encode s) = .ok s := by
  rw [decode, encode, decodeFrom_flatMap s.toList _ _ (Nat.le_refl _)]
  simp only [String.ofList_toList]

end HistoryAudit.Text.Utf8
