/-
  HistoryAudit.Proofs.Text.Occurrence

  Where a text occurs in another one. The search finds the first place at which
  the rest begins with the text (`findFirst?_eq_some_iff`), and it finds one iff
  the text occurs at all. More text behind never moves the first place
  (`FirstAt.append`).
-/
import HistoryAudit.Text.Blank
import Mathlib.Data.List.Infix

namespace HistoryAudit.Text

variable {α : Type _}

/-- `needle` stands at `i`, and at no place before. -/
structure FirstAt (needle hay : List α) (i : Nat) : Prop where
  here : needle <+: hay.drop i
  first : ∀ j < i, ¬needle <+: hay.drop j

theorem FirstAt.zero {needle hay : List α} (h : needle <+: hay) : FirstAt needle hay 0 :=
  ⟨h, fun j hj => absurd hj (Nat.not_lt_zero j)⟩

theorem FirstAt.succ {needle hay : List α} {y : α} {i : Nat} (hy : ¬needle <+: y :: hay)
    (h : FirstAt needle hay i) : FirstAt needle (y :: hay) (i + 1) := by
  refine ⟨h.here, fun j hj => ?_⟩
  cases j with
  | zero => exact hy
  | succ j => exact h.first j (Nat.lt_of_succ_lt_succ hj)

theorem FirstAt.eq {needle hay : List α} {i j : Nat} (hi : FirstAt needle hay i)
    (hj : FirstAt needle hay j) : i = j := by
  rcases Nat.lt_trichotomy i j with h | h | h
  · exact absurd hi.here (hj.first i h)
  · exact h
  · exact absurd hj.here (hi.first j h)

/-- The first place is within the text; for the empty text it is the start. -/
theorem FirstAt.le_length {needle hay : List α} {i : Nat} (h : FirstAt needle hay i) :
    i ≤ hay.length := by
  by_contra hlt
  have hnil : needle = [] := by
    have hhere := h.here
    rw [List.drop_eq_nil_of_le (by omega)] at hhere
    exact List.prefix_nil.mp hhere
  exact h.first 0 (by omega) (hnil ▸ List.nil_prefix)

/-- What stands first in a text stands first in every longer one. -/
theorem FirstAt.append {needle hay : List α} {i : Nat} (h : FirstAt needle hay i)
    (more : List α) : FirstAt needle (hay ++ more) i := by
  have hpre : ∀ j, hay.drop j <+: (hay ++ more).drop j := fun j =>
    (List.prefix_append hay more).drop j
  refine ⟨h.here.trans (hpre i), fun j hj hn => h.first j hj ?_⟩
  -- An earlier place would lie before the end of `hay`, too.
  have hlen := h.here.length_le
  rw [List.length_drop] at hlen
  refine List.prefix_of_prefix_length_le hn (hpre j) ?_
  rw [List.length_drop]
  omega

section Search

variable [BEq α] [LawfulBEq α]

theorem startsWith_iff {needle hay : List α} :
    startsWith needle hay = true ↔ needle <+: hay := by
  induction needle generalizing hay with
  | nil => simp only [startsWith, List.nil_prefix]
  | cons x xs ih =>
    cases hay with
    | nil => simp [startsWith]
    | cons y ys => rw [startsWith, Bool.and_eq_true, beq_iff_eq, ih, List.cons_prefix_cons]

theorem firstAt_of_findFirst? {needle hay : List α} {i : Nat}
    (h : findFirst? needle hay = some i) : FirstAt needle hay i := by
  -- The first place is this one or one more than that in the rest.
  induction hay generalizing i with
  | nil =>
    cases needle with
    | nil => cases h; exact .zero List.nil_prefix
    | cons x xs => cases h
  | cons y ys ih =>
    rw [findFirst?] at h
    by_cases hs : startsWith needle (y :: ys) = true
    · rw [if_pos hs] at h
      cases h
      exact .zero (startsWith_iff.mp hs)
    · rw [if_neg hs] at h
      obtain ⟨j, hj, rfl⟩ := Option.map_eq_some_iff.mp h
      exact .succ (fun hp => hs (startsWith_iff.mpr hp)) (ih hj)

theorem isSome_findFirst? {needle hay : List α} :
    (findFirst? needle hay).isSome = true ↔ needle <:+: hay := by
  induction hay with
  | nil =>
    cases needle with
    | nil => exact ⟨fun _ => List.nil_infix, fun _ => rfl⟩
    | cons x xs => simp [findFirst?]
  | cons y ys ih =>
    rw [findFirst?, List.infix_cons_iff, ← startsWith_iff, ← ih]
    by_cases hs : startsWith needle (y :: ys) = true
    · rw [if_pos hs]
      exact ⟨fun _ => .inl hs, fun _ => rfl⟩
    · rw [if_neg hs, Option.isSome_map]
      exact ⟨.inr, fun h => h.resolve_left hs⟩

/-- The search finds the first place, and every text that has one. -/
theorem findFirst?_eq_some_iff {needle hay : List α} {i : Nat} :
    findFirst? needle hay = some i ↔ FirstAt needle hay i := by
  refine ⟨firstAt_of_findFirst?, fun h => ?_⟩
  have hin : needle <:+: hay := h.here.isInfix.trans (List.drop_suffix i hay).isInfix
  obtain ⟨j, hj⟩ := Option.isSome_iff_exists.mp (isSome_findFirst?.mpr hin)
  rw [hj, (firstAt_of_findFirst? hj).eq h]

end Search

theorem contains_iff {hay needle : String} :
    contains hay needle = true ↔ needle.toList <:+: hay.toList := isSome_findFirst?

end HistoryAudit.Text
