/-
  HistoryAudit.Proofs.Json.Integers

  What a reader can give (`Gives`), and of a number that is read: an integer has at
  most 64 bits, because the digits are gathered in a significand of that size, and
  a number whose digits do not fit is a double.
-/
import HistoryAudit.Json.Reader
import Mathlib.Algebra.Group.Nat.Defs

namespace HistoryAudit.Json

/-- An integer has at most 64 bits. -/
def Number.InWord : Number → Prop
  | .int n => n.natAbs < 2 ^ 64
  | .float _ => True

/-- The same of what was found in the place of something else. -/
def Found.InWord : Found → Prop
  | .number n => n.InWord
  | _ => True

namespace Reader

/-- All that the reader gives has the property. -/
def Gives (Q : α → Prop) (r : Reader α) : Prop := ∀ c a c', r c = .ok a c' → Q a

section Parts

variable {Q : α → Prop} {a : α} {cause : Cause} {r : Reader β}

theorem gives_pure (h : Q a) : Gives Q (pure a) := by
  rintro c a c' ⟨⟩
  exact h

theorem gives_failHere : Gives Q (failHere cause) := nofun

theorem gives_failAtNext : Gives Q (failAtNext cause) := nofun

/-- What the whole gives comes from its last part. -/
theorem Gives.bind {P : β → Prop} {k : β → Reader α} (hr : Gives P r)
    (hk : ∀ b, P b → Gives Q (k b)) : Gives Q (r >>= k) := by
  intro c a c' h
  change EStateM.bind r k c = .ok a c' at h
  unfold EStateM.bind at h
  cases hc : r c with
  | ok b c'' =>
    rw [hc] at h
    exact hk b (hr c b c'' hc) c'' a c' h
  | error f c'' =>
    rw [hc] at h
    cases h

theorem gives_bind {k : β → Reader α} (hk : ∀ b, Gives Q (k b)) : Gives Q (r >>= k) :=
  Gives.bind (P := fun _ => True) (fun _ _ _ _ => trivial) fun b _ => hk b

theorem gives_ite {p : Prop} [Decidable p] {r r' : Reader α} (ht : p → Gives Q r)
    (hf : ¬p → Gives Q r') : Gives Q (if p then r else r') := by
  split
  · rename_i h
    exact ht h
  · rename_i h
    exact hf h

end Parts

/-! ## Numbers -/

theorem absorb_le {limit acc : Nat} (h : acc ≤ limit) (ds : List Char) :
    (Number.absorb limit acc ds).1 ≤ limit := by
  induction ds generalizing acc with
  | nil => exact h
  | cons d ds ih =>
    rw [Number.absorb]
    split
    · rename_i hgrown
      exact ih hgrown
    · exact h

theorem float_inWord (negative : Bool) (significand : Nat) (exponent : Int) :
    Gives Number.InWord (float negative significand exponent) := by
  unfold float
  split
  · exact gives_pure trivial
  · exact gives_failHere

theorem exponent_inWord (negative : Bool) (significand : Nat) (start : Int) :
    Gives Number.InWord (exponent negative significand start) := by
  refine gives_bind fun _ => gives_bind fun down => gives_bind fun next => ?_
  split
  · exact gives_failHere
  · refine gives_ite (fun _ => gives_failAtNext) fun _ => ?_
    -- Of a great exponent only the size counts, and it gives a double too.
    intro cursor n c' h
    simp only at h
    split at h
    · exact float_inWord _ _ _ _ _ _ h
    · split at h
      · exact gives_failHere _ _ _ h
      · cases h
        exact trivial

theorem exponent?_inWord (negative : Bool) (significand : Nat) (start : Int) :
    Gives Number.InWord (exponent? negative significand start) := by
  refine gives_bind fun next => ?_
  split
  · exact exponent_inWord _ _ _
  · exact exponent_inWord _ _ _
  · exact float_inWord _ _ _

theorem fraction_inWord (negative : Bool) (significand : Nat) (start : Int) :
    Gives Number.InWord (fraction negative significand start) := by
  refine gives_bind fun _ => gives_bind fun ds => gives_ite (fun _ => ?_) fun _ =>
    exponent?_inWord _ _ _
  refine gives_bind fun next => ?_
  split
  · exact gives_failHere
  · exact gives_failAtNext

theorem afterInteger_inWord (negative : Bool) {significand : Nat}
    (h : significand ≤ Number.maxSignificand) (dropped : Nat) :
    Gives Number.InWord (afterInteger negative significand dropped) := by
  -- A number is given as an integer only if all its digits are in the significand.
  have hword : significand < 2 ^ 64 := Nat.lt_of_le_of_lt h (by decide)
  refine gives_bind fun next => ?_
  split
  · exact fraction_inWord _ _ _
  · exact exponent_inWord _ _ _
  · exact exponent_inWord _ _ _
  · refine gives_ite (fun _ => float_inWord _ _ _) fun _ => gives_ite (fun _ => ?_) fun _ =>
      gives_ite (fun _ => gives_pure trivial) fun _ => ?_
    · exact gives_pure hword
    · refine gives_pure ?_
      show (-(significand : Int)).natAbs < 2 ^ 64
      rwa [Int.natAbs_neg]

theorem unsignedNumber_inWord (negative : Bool) :
    Gives Number.InWord (unsignedNumber negative) := by
  refine gives_bind fun next => ?_
  split
  · exact gives_failHere
  · refine gives_bind fun _ => gives_bind fun next => ?_
    split
    · exact gives_ite (fun _ => gives_failAtNext) fun _ => afterInteger_inWord _ (Nat.zero_le _) _
    · exact afterInteger_inWord _ (Nat.zero_le _) _
  · exact gives_ite (fun _ => gives_bind fun ds => afterInteger_inWord _ (absorb_le (Nat.zero_le _) _) _)
      fun _ => gives_failAtNext

theorem number_inWord : Gives Number.InWord number := by
  refine gives_bind fun next => ?_
  split
  · exact gives_bind fun _ => unsignedNumber_inWord _
  · exact unsignedNumber_inWord _

theorem scalar_inWord (c : Char) : Gives (fun v => (Found.of v).InWord) (scalar c) := by
  refine gives_ite (fun _ => ?_) fun _ => gives_ite (fun _ => ?_) fun _ => gives_ite
    (fun _ => ?_) fun _ => gives_ite (fun _ => ?_) fun _ => gives_ite (fun _ => ?_) fun _ =>
      gives_failAtNext
  · exact gives_bind fun _ => gives_bind fun _ => gives_pure trivial
  · exact gives_bind fun _ => gives_bind fun _ => gives_pure trivial
  · exact gives_bind fun _ => gives_bind fun _ => gives_pure trivial
  · exact number_inWord.bind fun n hn => gives_pure hn
  · exact gives_bind fun _ => gives_bind fun s => gives_pure trivial

end Reader

end HistoryAudit.Json
