/-
  HistoryAudit.Proofs.Text.Unbroken

  Texts without a line feed or carriage return. Numbers and quoted texts are
  such texts whatever they tell of, and what is put together from such texts is
  one, too. Printed one below the other they come apart again as they were
  (`lines_join`).
-/
import HistoryAudit.Decimal.Shortest
import HistoryAudit.Text.Blank
import HistoryAudit.Text.Quoted
import Mathlib.Data.List.Basic

namespace HistoryAudit

namespace Text

/-- The text holds no line feed and no carriage return. -/
def Unbroken (s : String) : Prop := '\n' ∉ s.toList ∧ '\r' ∉ s.toList

instance (s : String) : Decidable (Unbroken s) := inferInstanceAs (Decidable (_ ∧ _))

/-! ## Pieces -/

theorem unbroken_append {s t : String} : Unbroken (s ++ t) ↔ Unbroken s ∧ Unbroken t := by
  rw [Unbroken, String.toList_append, List.mem_append, List.mem_append, not_or, not_or]
  exact and_and_and_comm

theorem unbroken_ofList {cs : List Char} : Unbroken (String.ofList cs) ↔ '\n' ∉ cs ∧ '\r' ∉ cs := by
  rw [Unbroken, String.toList_ofList]

/-- A text that is written out: the kernel compares its characters one by one. -/
theorem unbroken_literal {cs : List Char} (h : cs.all (fun c => c != '\n' && c != '\r') = true) :
    Unbroken (String.ofList cs) := by
  rw [List.all_eq_true] at h
  rw [unbroken_ofList]
  exact ⟨fun hc => absurd (h _ hc) (by decide), fun hc => absurd (h _ hc) (by decide)⟩

theorem unbroken_intercalate {separator : String} {texts : List String}
    (hs : Unbroken separator) (ht : ∀ t ∈ texts, Unbroken t) :
    Unbroken (separator.intercalate texts) := by
  induction texts with
  | nil =>
    rw [String.intercalate_nil]
    exact unbroken_literal rfl
  | cons t texts ih =>
    rw [List.forall_mem_cons] at ht
    cases texts with
    | nil =>
      rw [String.intercalate_singleton]
      exact ht.1
    | cons t' texts =>
      rw [String.intercalate_cons_cons, unbroken_append, unbroken_append]
      exact ⟨⟨ht.1, hs⟩, ih ht.2⟩

/-! ## Numbers -/

theorem exists_digitChar_of_mem_toDigits {base n : Nat} {c : Char} (hbase : 1 < base)
    (hc : c ∈ Nat.toDigits base n) : ∃ k < base, c = Nat.digitChar k := by
  induction n using Nat.strongRecOn with
  | ind n ih =>
    by_cases hn : n < base
    · rw [Nat.toDigits_of_lt_base hn, List.mem_singleton] at hc
      exact ⟨n, hn, hc⟩
    · rw [Nat.toDigits_of_base_le hbase (Nat.not_lt.mp hn), List.mem_append,
        List.mem_singleton] at hc
      cases hc with
      | inl hfront => exact ih (n / base) (Nat.div_lt_self (by omega) hbase) hfront
      | inr hlast => exact ⟨n % base, Nat.mod_lt n (by omega), hlast⟩

/-- No digit is a line break, to any base that has digits. -/
theorem unbroken_toDigits {base : Nat} (hlo : 1 < base) (hhi : base ≤ 16) (n : Nat) :
    '\n' ∉ Nat.toDigits base n ∧ '\r' ∉ Nat.toDigits base n := by
  have hdigit : ∀ k < 16, '\n' ≠ Nat.digitChar k ∧ '\r' ≠ Nat.digitChar k := by decide
  constructor
  · intro hc
    obtain ⟨k, hk, heq⟩ := exists_digitChar_of_mem_toDigits hlo hc
    exact (hdigit k (by omega)).1 heq
  · intro hc
    obtain ⟨k, hk, heq⟩ := exists_digitChar_of_mem_toDigits hlo hc
    exact (hdigit k (by omega)).2 heq

theorem unbroken_nat (n : Nat) : Unbroken (toString n) := by
  rw [Nat.toString_eq_ofList_toDigits, unbroken_ofList]
  exact unbroken_toDigits (by decide) (by decide) n

theorem unbroken_int (n : Int) : Unbroken (toString n) := by
  cases n with
  | ofNat m => exact unbroken_nat m
  | negSucc m =>
    show Unbroken ("-" ++ toString (m + 1))
    exact unbroken_append.mpr ⟨unbroken_literal rfl, unbroken_nat (m + 1)⟩

/-! ## Quoted texts -/

theorem Quoted.unbroken_escape (c : Char) : '\n' ∉ escape c ∧ '\r' ∉ escape c := by
  rw [escape]
  generalize CodeRange.holds unseen c.toNat = isUnseen
  -- The characters with an escape of their own come first.
  split_ifs with _ _ hn hr
  · decide
  · decide
  · decide
  · decide
  · decide
  · decide
  · -- By number: the digits stand between two braces.
    have hdigits := unbroken_toDigits (by decide) (Nat.le_refl 16) c.toNat
    rw [hexDigits]
    exact ⟨by simp [hdigits.1], by simp [hdigits.2]⟩
  · rw [List.mem_singleton, List.mem_singleton]
    exact ⟨fun h => hn h.symm, fun h => hr h.symm⟩

/-- A text in quotes is in one line, whatever it holds. -/
theorem unbroken_quoted (s : String) : Unbroken (quoted s) := by
  have hencode : '\n' ∉ Quoted.encode s.toList ∧ '\r' ∉ Quoted.encode s.toList := by
    rw [Quoted.encode, List.mem_flatMap, List.mem_flatMap]
    exact ⟨fun ⟨c, _, hc⟩ => (Quoted.unbroken_escape c).1 hc,
      fun ⟨c, _, hc⟩ => (Quoted.unbroken_escape c).2 hc⟩
  rw [quoted, unbroken_ofList]
  exact ⟨by simp [hencode.1], by simp [hencode.2]⟩

end Text

/-! ## Decimal numbers -/

namespace Decimal

open Text

theorem unbroken_positional (s : Scientific) : Unbroken (positional s) := by
  have hdigits := unbroken_toDigits (by decide) (by decide : 10 ≤ 16) s.digits
  unfold positional
  simp only
  split_ifs with hwhole hpoint
  · rw [unbroken_ofList]
    exact ⟨by simp [hdigits.1], by simp [hdigits.2]⟩
  · -- The point stands between digits.
    rw [unbroken_ofList, List.mem_append, List.mem_append, List.mem_cons, List.mem_cons]
    constructor
    · rintro (h | h | h)
      · exact hdigits.1 (List.mem_of_mem_take h)
      · cases h
      · exact hdigits.1 (List.mem_of_mem_drop h)
    · rintro (h | h | h)
      · exact hdigits.2 (List.mem_of_mem_take h)
      · cases h
      · exact hdigits.2 (List.mem_of_mem_drop h)
  · rw [unbroken_ofList]
    exact ⟨by simp [hdigits.1], by simp [hdigits.2]⟩

theorem unbroken_scientific (s : Scientific) : Unbroken (scientific s) := by
  have hdigits := unbroken_toDigits (by decide) (by decide : 10 ≤ 16) s.digits
  -- Whatever the sign, only digits and a letter are put behind the mantissa.
  have hscaled : ∀ (mantissa : String) (exponent : Int), Unbroken mantissa →
      Unbroken (if exponent < 0 then s!"{mantissa}e-{exponent.natAbs}"
        else s!"{mantissa}e+{exponent.natAbs}") := by
    intro mantissa exponent h
    split_ifs
    · exact unbroken_append.mpr ⟨unbroken_append.mpr ⟨h, unbroken_literal rfl⟩, unbroken_nat _⟩
    · exact unbroken_append.mpr ⟨unbroken_append.mpr ⟨h, unbroken_literal rfl⟩, unbroken_nat _⟩
  refine hscaled _ _ ?_
  split
  · rename_i d e rest heq
    rw [heq] at hdigits
    rw [unbroken_ofList]
    simpa using hdigits
  · exact unbroken_ofList.mpr hdigits

theorem unbroken_text (f : Float) : Unbroken (text f) := by
  unfold text
  simp only
  have hsign : Unbroken (if f.toBits.toNat ≥ Nat.pow 2 63 then "-" else "") := by
    split_ifs
    · exact unbroken_literal rfl
    · exact unbroken_literal rfl
  split
  · exact unbroken_append.mpr ⟨hsign, unbroken_literal rfl⟩
  · refine unbroken_append.mpr ⟨hsign, ?_⟩
    split
    · exact unbroken_positional _
    · exact unbroken_scientific _

end Decimal

end HistoryAudit
