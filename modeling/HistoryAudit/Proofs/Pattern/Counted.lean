/-
  HistoryAudit.Proofs.Pattern.Counted

  The first prompt with a large enough number. For a rigid template it is where
  the search finds one (`Rigid.find?_eq_some_iff`). The number of a prompt is read
  again from its text (`counted_number?`).
-/
import HistoryAudit.Proofs.Pattern.Occurrences
import HistoryAudit.Proofs.Pattern.Settled
import Mathlib.Data.Nat.Digits.Defs

namespace HistoryAudit.Pattern

open Dialogue (Taken)
open Text.Utf8 (encode lossy lossy_encode encode_append)

namespace Template

/-! ## Numbers -/

/-- The number that digits write in base ten. -/
def value (digits : List UInt8) : Nat :=
  Nat.ofDigits 10 (digits.reverse.map fun b => b.toNat - 48)

theorem foldl_eq_value (digits : List UInt8) :
    digits.foldl (fun n b => n * 10 + (b.toNat - 48)) 0 = value digits := by
  induction digits using List.reverseRecOn with
  | nil => rfl
  | append_singleton digits b ih =>
    rw [List.foldl_append, ih, value, value, List.reverse_append, List.reverse_singleton,
      List.singleton_append, List.map_cons, Nat.ofDigits_cons, List.foldl_cons, List.foldl_nil]
    rw [Nat.mul_comm, Nat.add_comm]

/-- Digits write a number if it fits 64 bits. -/
theorem AreDigits.number?_eq {digits : List UInt8} (h : AreDigits digits) :
    number? digits = if value digits < Nat.pow 2 64 then some (value digits) else none := by
  rw [number?, foldl_eq_value]
  exact if_congr (and_iff_right h.ne_nil) rfl rfl

/-- The text of digits. -/
def digitText (digits : List UInt8) : String :=
  String.ofList (digits.map fun b => Char.ofNat b.toNat)

/-- The text of an occurrence with these digits. -/
def text (t : Template) (digits : List UInt8) : String :=
  t.before ++ digitText digits ++ t.after

theorem utf8EncodeChar_digit {b : UInt8} (h : isDigit b = true) :
    String.utf8EncodeChar (Char.ofNat b.toNat) = [b] := by
  rw [isDigit, Bool.and_eq_true, decide_eq_true_eq, decide_eq_true_eq] at h
  have hle : b.toNat ≤ 57 := UInt8.le_iff_toNat_le.mp h.2
  have hc : (Char.ofNat b.toNat).val.toNat = b.toNat := by
    rw [Char.ofNat, dif_pos (.inl (by omega))]
    rfl
  refine (if_pos (by rw [hc]; omega)).trans ?_
  rw [hc, UInt8.ofNat_toNat]

theorem encode_digitText {digits : List UInt8} (h : ∀ b ∈ digits, isDigit b = true) :
    encode (digitText digits) = digits := by
  rw [encode, digitText, String.toList_ofList, List.flatMap_map]
  induction digits with
  | nil => rfl
  | cons b digits ih =>
    rw [List.forall_mem_cons] at h
    rw [List.flatMap_cons, utf8EncodeChar_digit h.1, ih h.2, List.singleton_append]

theorem AreDigits.encode_text {t : Template} {digits : List UInt8} (h : AreDigits digits) :
    encode (t.text digits) = t.word digits := by
  rw [text, encode_append, encode_append, encode_digitText h.all, word]

/-! ## The first prompt -/

/-- A prompt stands at `i`, and its number is at least `least` and fits 64 bits. -/
structure PromptAt (t : Template) (least : Nat) (hay : List UInt8) (i : Nat)
    (digits : List UInt8) : Prop where
  stands : t.StandsAt hay i digits
  fits : value digits < Nat.pow 2 64
  least_le : least ≤ value digits

/-- Such a prompt stands at `i`, and at no place before. -/
structure FirstPrompt (t : Template) (least : Nat) (hay : List UInt8) (i : Nat)
    (digits : List UInt8) : Prop where
  here : t.PromptAt least hay i digits
  first : ∀ j < i, ∀ digits', ¬t.PromptAt least hay j digits'

section FirstPrompt

variable {t : Template} {least : Nat} {hay digits digits' : List UInt8} {i j : Nat}

theorem AreDigits.any_number?_iff (h : AreDigits digits) :
    (number? digits).any (least ≤ ·) = true ↔
      value digits < Nat.pow 2 64 ∧ least ≤ value digits := by
  rw [h.number?_eq]
  by_cases hfits : value digits < Nat.pow 2 64
  · rw [if_pos hfits, Option.any_some, decide_eq_true_eq, and_iff_right hfits]
  · rw [if_neg hfits, Option.any_none]
    exact ⟨fun hf => absurd hf Bool.false_ne_true, fun hf => absurd hf.1 hfits⟩

/-- A place is taken by the search iff a prompt stands there. -/
theorem Rigid.any_front?_iff (ht : t.Rigid) :
    ((t.front? (hay.drop i)).any fun o => o.number?.any (least ≤ ·)) = true ↔
      ∃ digits, t.PromptAt least hay i digits := by
  rw [Option.any_eq_true]
  constructor
  · rintro ⟨o, ho, hn⟩
    have hs := standsAt_drop.mp (ht.delimited.front?_eq_some_iff.mp ho).1
    obtain ⟨hfits, hle⟩ := hs.areDigits.any_number?_iff.mp hn
    exact ⟨o.digits, hs, hfits, hle⟩
  · rintro ⟨digits, hs, hfits, hle⟩
    have ho : t.front? (hay.drop i) = some ⟨(t.word digits).length, digits⟩ :=
      ht.delimited.front?_eq_some_iff.mpr ⟨standsAt_drop.mpr hs, rfl⟩
    exact ⟨_, ho, hs.areDigits.any_number?_iff.mpr ⟨hfits, hle⟩⟩

/-- The search finds the first prompt with a large enough number. -/
theorem Rigid.find?_eq_some_iff (ht : t.Rigid) {e : Extent} :
    t.find? least hay = some e ↔
      ∃ digits, t.FirstPrompt least hay e.start digits ∧ e.length = (t.word digits).length := by
  rw [find?, ht.occurrences_eq, Option.map_eq_some_iff]
  constructor
  · rintro ⟨⟨i, o⟩, ho, rfl⟩
    obtain ⟨⟨hfront, hn⟩, hfirst⟩ := find?_places_eq_some_iff.mp ho
    obtain ⟨hs, hlen⟩ := ht.delimited.front?_eq_some_iff.mp hfront
    have hs := standsAt_drop.mp hs
    obtain ⟨hfits, hle⟩ := hs.areDigits.any_number?_iff.mp hn
    refine ⟨o.digits, ⟨⟨hs, hfits, hle⟩, fun j hj digits hp => ?_⟩, hlen⟩
    exact hfirst j hj (ht.any_front?_iff.mpr ⟨digits, hp⟩)
  · -- No occurrence before it fits, and none overlaps it.
    rintro ⟨digits, ⟨⟨hs, hfits, hle⟩, hfirst⟩, hlen⟩
    refine ⟨(e.start, ⟨e.length, digits⟩), find?_places_eq_some_iff.mpr ⟨⟨?_, ?_⟩, ?_⟩, rfl⟩
    · exact ht.delimited.front?_eq_some_iff.mpr ⟨standsAt_drop.mpr hs, hlen⟩
    · exact hs.areDigits.any_number?_iff.mpr ⟨hfits, hle⟩
    · intro j hj hany
      obtain ⟨digits', hp⟩ := ht.any_front?_iff.mp hany
      exact hfirst j hj digits' hp

theorem Rigid.firstPrompt_eq (ht : t.Rigid) (hi : t.FirstPrompt least hay i digits)
    (hj : t.FirstPrompt least hay j digits') : i = j ∧ digits = digits' := by
  rcases Nat.lt_trichotomy i j with h | rfl | h
  · exact absurd hi.here (hj.first i h digits)
  · exact ⟨rfl, ht.delimited.digits_eq hi.here.stands hj.here.stands⟩
  · exact absurd hj.here (hi.first j h digits')

/-- The number of a prompt is read again from its bytes. -/
theorem AreDigits.firstNumber?_word (h : AreDigits digits) (hfits : value digits < Nat.pow 2 64) :
    t.firstNumber? (t.word digits) = some (value digits) := by
  rw [firstNumber?_of_front? h.front?_word, Occurrence.number?, h.number?_eq, if_pos hfits]

/-- In the bytes of a prompt with a large enough number the whole prompt is found. -/
theorem AreDigits.find?_word (h : AreDigits digits) (hfits : value digits < Nat.pow 2 64)
    (hle : least ≤ value digits) :
    t.find? least (t.word digits) = some ⟨0, (t.word digits).length⟩ := by
  have hfront := h.front?_word (t := t)
  have hnumber := h.any_number?_iff.mpr ⟨hfits, hle⟩
  cases hbytes : t.word digits with
  | nil =>
    rw [hbytes, front?_nil] at hfront
    cases hfront
  | cons b rest =>
    rw [hbytes] at hfront
    rw [find?, occurrences, occurrencesFrom, hfront]
    simp only
    rw [List.find?_cons_of_pos (by exact hnumber)]
    rfl

end FirstPrompt

end Template

/-! ## The pattern -/

section Counted

variable {t : Template}

/-- The pattern of a prompt with a mark. -/
theorem eq_counted_of_ofPrompt {prompt : String} {least : Nat} {p : Pattern}
    (ht : Template.ofPrompt? prompt = some t) (hp : ofPrompt prompt least = .ok p) :
    p = counted t least := by
  rw [ofPrompt, ht] at hp
  simp only at hp
  split at hp <;> cases hp
  rfl

/-- The pattern of a rigid template finds the first prompt. -/
theorem counted_finds (ht : t.Rigid) (least : Nat) :
    (counted t least).Finds fun hay i w =>
      ∃ digits, w = t.word digits ∧ t.FirstPrompt least hay i digits where
  find?_iff {hay e} := by
    rw [find?, ht.find?_eq_some_iff]
    constructor
    · rintro ⟨digits, hfirst, hlen⟩
      exact ⟨t.word digits, ⟨digits, rfl, hfirst⟩, hlen⟩
    · rintro ⟨w, ⟨digits, rfl, hfirst⟩, hlen⟩
      exact ⟨digits, hfirst, hlen⟩
  here := by
    rintro hay i w ⟨digits, rfl, hfirst⟩
    exact hfirst.here.stands.here
  le_length := by
    rintro hay i w ⟨digits, rfl, hfirst⟩
    exact (Nat.le_add_right i _).trans hfirst.here.stands.le_length

theorem counted_number? {least i : Nat} {hay digits : List UInt8}
    (h : t.PromptAt least hay i digits) :
    (counted t least).number? (t.text digits) = some (Template.value digits) := by
  have hd := h.stands.areDigits
  rw [number?, hd.encode_text, hd.firstNumber?_word h.fits]

end Counted

end HistoryAudit.Pattern
