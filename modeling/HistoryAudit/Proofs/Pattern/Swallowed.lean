/-
  HistoryAudit.Proofs.Pattern.Swallowed

  When a prompt in the output is not found. The search takes occurrences one
  behind the other (`occurrencesFrom_apart`), and every place where the template
  stands lies within one of them (`exists_covering`). So a prompt with a large
  enough number is found unless it begins within an occurrence that is passed over
  (`counted_found_unless_swallowed`). No prompt of a rigid template does.
-/
import HistoryAudit.Proofs.Pattern.Reread
import Mathlib.Data.List.Pairwise

namespace HistoryAudit.Pattern

open Text (startsWith_iff)
open Text.Utf8 (encode encode_append)

namespace Template

variable {t : Template}

/-! ## The occurrences that the search takes -/

/-- No number of digits is possible iff none is found. -/
theorem digitCount?_eq_none {after run : List UInt8} {count : Nat}
    (h : digitCount? after run count = none) :
    ∀ n, 0 < n → n ≤ count → ¬after <+: run.drop n := by
  induction count with
  | zero => exact fun n hpos hle => absurd hpos (by omega)
  | succ count ih =>
    rw [digitCount?] at h
    split at h
    · cases h
    · rename_i hs
      intro n hpos hle
      rcases Nat.le_succ_iff.mp hle with hle | rfl
      · exact ih h n hpos hle
      · exact mt startsWith_iff.mpr hs

/-- Where the template stands, an occurrence is found. -/
theorem StandsAt.exists_front? {hay digits : List UInt8} {i : Nat} (h : t.StandsAt hay i digits) :
    ∃ o, t.front? (hay.drop i) = some o := by
  rw [← standsAt_drop] at h
  obtain ⟨run, hrun⟩ := h.before_prefix
  rw [← hrun] at h ⊢
  rw [front?_append]
  cases hcount : digitCount? (encode t.after) run (run.takeWhile isDigit).length with
  | some n => exact ⟨_, rfl⟩
  | none =>
    have hpre := (standsAt_append_iff.mp h).2.1
    rw [List.prefix_iff_eq_take.mp hpre, standsAt_take_iff hpre.length_le] at h
    exact absurd h.2.2 (digitCount?_eq_none hcount _ h.1 h.2.1)

theorem length_pos_of_front? {hay : List UInt8} {o : Occurrence} (h : t.front? hay = some o) :
    0 < o.length := by
  obtain ⟨⟨hs, hlen⟩, -⟩ := front?_eq_some_iff.mp h
  have hpos := List.length_pos_iff.mpr hs.areDigits.ne_nil
  rw [hlen, length_word]
  omega

/-- Behind the next `skip` bytes each occurrence ends before the next one begins. -/
theorem occurrencesFrom_apart (skip offset : Nat) (hay : List UInt8) :
    (t.occurrencesFrom skip offset hay).Pairwise (fun a b => a.1 + a.2.length ≤ b.1) ∧
      ∀ a ∈ t.occurrencesFrom skip offset hay, offset + skip ≤ a.1 := by
  -- The bytes that are still to be skipped are those of the occurrence before.
  fun_induction occurrencesFrom t skip offset hay with
  | case1 => exact ⟨.nil, List.forall_mem_nil _⟩
  | case2 skip offset b rest ih =>
    refine ⟨ih.1, fun a ha => ?_⟩
    have hle := ih.2 a ha
    omega
  | case3 offset b rest o ho ih =>
    have hpos := length_pos_of_front? ho
    refine ⟨.cons (fun a ha => ?_) ih.1, List.forall_mem_cons.mpr ⟨Nat.le_refl _, fun a ha => ?_⟩⟩
    · have hle := ih.2 a ha
      simp only
      omega
    · have hle := ih.2 a ha
      omega
  | case4 offset b rest hnone ih =>
    refine ⟨ih.1, fun a ha => ?_⟩
    have hle := ih.2 a ha
    omega

/-- Two occurrences that the search takes and that overlap are the same. -/
theorem occurrences_eq_of_overlap {hay : List UInt8} {a b : Nat × Occurrence}
    (ha : a ∈ t.occurrences hay) (hb : b ∈ t.occurrences hay) (hle : b.1 ≤ a.1)
    (hlt : a.1 < b.1 + b.2.length) : a = b := by
  have hapart : (t.occurrences hay).Pairwise fun a b =>
      a.1 + a.2.length ≤ b.1 ∨ b.1 + b.2.length ≤ a.1 :=
    (occurrencesFrom_apart 0 0 hay).1.imp .inl
  have hsymm : Std.Symm fun a b : Nat × Occurrence =>
      a.1 + a.2.length ≤ b.1 ∨ b.1 + b.2.length ≤ a.1 := ⟨fun _ _ => Or.symm⟩
  by_contra hne
  obtain ⟨k, -, hfront⟩ := front?_of_mem_occurrencesFrom ha
  have hpos := length_pos_of_front? hfront
  rcases hapart.forall ha hb hne with happ | happ <;> omega

/-- Every place where something is found, behind the bytes that are skipped, lies within one of the
occurrences. -/
theorem exists_coveringFrom (skip offset : Nat) {hay : List UInt8} {k : Nat} {o : Occurrence}
    (hskip : skip ≤ k) (h : t.front? (hay.drop k) = some o) :
    ∃ j o', (j, o') ∈ t.occurrencesFrom skip offset hay ∧
      j ≤ offset + k ∧ offset + k < j + o'.length := by
  fun_induction occurrencesFrom t skip offset hay generalizing k with
  | case1 =>
    rw [List.drop_nil, front?_nil] at h
    cases h
  | case2 skip offset b rest ih =>
    obtain ⟨k, rfl⟩ : ∃ m, k = m + 1 := ⟨k - 1, by omega⟩
    obtain ⟨j, o', hmem, hle, hlt⟩ := ih (Nat.le_of_succ_le_succ hskip) h
    exact ⟨j, o', hmem, by omega, by omega⟩
  | case3 offset b rest o₁ ho ih =>
    by_cases hwithin : k < o₁.length
    · -- The place lies in the occurrence that begins here.
      exact ⟨offset, o₁, List.mem_cons_self, by omega, by omega⟩
    · -- Or behind it, where the search goes on.
      have hpos := length_pos_of_front? ho
      obtain ⟨k, rfl⟩ : ∃ m, k = m + 1 := ⟨k - 1, by omega⟩
      obtain ⟨j, o', hmem, hle, hlt⟩ := ih (by omega) h
      exact ⟨j, o', List.mem_cons_of_mem _ hmem, by omega, by omega⟩
  | case4 offset b rest hnone ih =>
    cases k with
    | zero =>
      rw [List.drop_zero, hnone] at h
      cases h
    | succ k =>
      obtain ⟨j, o', hmem, hle, hlt⟩ := ih (Nat.zero_le k) h
      exact ⟨j, o', hmem, by omega, by omega⟩

/-- Every place where something is found lies within an occurrence that the search takes. -/
theorem exists_covering {hay : List UInt8} {i : Nat} {o : Occurrence}
    (h : t.front? (hay.drop i) = some o) :
    ∃ j o', (j, o') ∈ t.occurrences hay ∧ j ≤ i ∧ i < j + o'.length := by
  obtain ⟨j, o', hmem, hle, hlt⟩ := exists_coveringFrom 0 0 (Nat.zero_le i) h
  rw [Nat.zero_add] at hle hlt
  exact ⟨j, o', hmem, hle, hlt⟩

/-! ## Numbers in the output -/

/-- The digits of a number. -/
def numeral (n : Nat) : List UInt8 := encode (toString n)

/-- The prompt with a number. -/
def rendered (t : Template) (n : Nat) : String := t.before ++ toString n ++ t.after

theorem encode_rendered (t : Template) (n : Nat) : encode (t.rendered n) = t.word (numeral n) := by
  rw [rendered, encode_append, encode_append, word, numeral]

theorem toNat_of_mem_toDigits {n : Nat} {c : Char} (h : c ∈ Nat.toDigits 10 n) :
    48 ≤ c.toNat ∧ c.toNat ≤ 57 :=
  Char.isDigit_iff_toNat.mp (Nat.isDigit_of_mem_toDigits (by decide) (Nat.le_refl 10) h)

theorem numeral_eq (n : Nat) :
    numeral n = (Nat.toDigits 10 n).map fun c => UInt8.ofNat c.toNat := by
  have hone : ∀ c ∈ Nat.toDigits 10 n, String.utf8EncodeChar c = [UInt8.ofNat c.toNat] := by
    intro c hc
    obtain ⟨-, hhi⟩ := toNat_of_mem_toDigits hc
    exact if_pos (Nat.le_trans hhi (by decide))
  rw [numeral, encode, Nat.toString_eq_ofList_toDigits, String.toList_ofList]
  generalize Nat.toDigits 10 n = cs at hone
  induction cs with
  | nil => rfl
  | cons c cs ih =>
    rw [List.forall_mem_cons] at hone
    rw [List.flatMap_cons, hone.1, ih hone.2, List.map_cons, List.singleton_append]

theorem areDigits_numeral (n : Nat) : AreDigits (numeral n) where
  ne_nil := by
    rw [numeral_eq]
    exact mt List.map_eq_nil_iff.mp Nat.toDigits_ne_nil
  all := by
    rw [numeral_eq]
    intro b hb
    obtain ⟨c, hc, rfl⟩ := List.mem_map.mp hb
    obtain ⟨hlo, hhi⟩ := toNat_of_mem_toDigits hc
    rw [isDigit, Bool.and_eq_true, decide_eq_true_eq, decide_eq_true_eq, UInt8.le_iff_toNat_le,
      UInt8.le_iff_toNat_le, Text.Utf8.toNat_ofNat_byte (by omega)]
    exact ⟨hlo, hhi⟩

theorem value_numeral (n : Nat) : value (numeral n) = n := by
  -- The bytes of the digits are folded as their characters are.
  have hfold : ∀ (cs : List Char) (acc : Nat), (∀ c ∈ cs, c.toNat < 256) →
      (cs.map fun c => UInt8.ofNat c.toNat).foldl (fun n b => n * 10 + (b.toNat - 48)) acc =
        Nat.ofDigitChars 10 cs acc := by
    intro cs
    induction cs with
    | nil => exact fun acc _ => rfl
    | cons c cs ih =>
      intro acc hcs
      rw [List.forall_mem_cons] at hcs
      rw [List.map_cons, List.foldl_cons, ih _ hcs.2, Nat.ofDigitChars_cons,
        Text.Utf8.toNat_ofNat_byte hcs.1, Nat.mul_comm]
      rfl
  have hbytes : ∀ c ∈ Nat.toDigits 10 n, c.toNat < 256 := fun c hc =>
    Nat.lt_of_le_of_lt (toNat_of_mem_toDigits hc).2 (by decide)
  rw [← foldl_eq_value, numeral_eq, hfold _ _ hbytes, Nat.ofDigitChars_ten_toDigits]

/-- Where the text of a prompt stands in the output, the prompt stands. -/
theorem promptAt_of_rendered {least n i : Nat} {hay : List UInt8}
    (h : encode (t.rendered n) <+: hay.drop i) (hfits : n < Nat.pow 2 64) (hle : least ≤ n) :
    t.PromptAt least hay i (numeral n) where
  stands := ⟨areDigits_numeral n, encode_rendered t n ▸ h⟩
  fits := (value_numeral n).symm ▸ hfits
  least_le := (value_numeral n).symm ▸ hle

/-! ## Prompts that are passed over -/

/-- The search takes an occurrence with these digits at `j` and passes over it: the number is too
small, or does not fit 64 bits. -/
structure PassedOver (t : Template) (least : Nat) (hay : List UInt8) (j : Nat)
    (digits : List UInt8) : Prop where
  taken : (j, ⟨(t.word digits).length, digits⟩) ∈ t.occurrences hay
  unfit : value digits < least ∨ Nat.pow 2 64 ≤ value digits

/-- What begins at `i` begins within an occurrence that is passed over. -/
def Swallowed (t : Template) (least : Nat) (hay : List UInt8) (i : Nat) : Prop :=
  ∃ j digits, t.PassedOver least hay j digits ∧ j ≤ i ∧ i < j + (t.word digits).length

section Search

variable {least i : Nat} {hay digits : List UInt8}

/-- If nothing is found, then all occurrences that the search takes are passed over. -/
theorem passedOver_of_find?_eq_none {o : Occurrence} (h : t.find? least hay = none)
    (hmem : (i, o) ∈ t.occurrences hay) : t.PassedOver least hay i o.digits := by
  obtain ⟨hs, ho⟩ := standsAt_of_mem_occurrences hmem
  have hunfit := List.find?_eq_none.mp (Option.map_eq_none_iff.mp h) _ hmem
  have hnot : ¬(value o.digits < Nat.pow 2 64 ∧ least ≤ value o.digits) :=
    mt hs.areDigits.any_number?_iff.mpr hunfit
  exact ⟨ho ▸ hmem, by omega⟩

/-- A prompt that is not found begins within an occurrence that is passed over. -/
theorem PromptAt.swallowed (hp : t.PromptAt least hay i digits) (h : t.find? least hay = none) :
    t.Swallowed least hay i := by
  obtain ⟨o, ho⟩ := hp.stands.exists_front?
  obtain ⟨j, o', hmem, hle, hlt⟩ := exists_covering ho
  obtain ⟨-, ho'⟩ := standsAt_of_mem_occurrences hmem
  have hlen : o'.length = (t.word o'.digits).length := congrArg Occurrence.length ho'
  exact ⟨j, o'.digits, passedOver_of_find?_eq_none h hmem, hle, hlen ▸ hlt⟩

/-- What is found does not begin within an occurrence that is passed over. -/
theorem not_swallowed_of_find? {e : Extent} (h : t.find? least hay = some e) :
    ¬t.Swallowed least hay e.start := by
  obtain ⟨digits, hp, -, hmem⟩ := find?_eq_some h
  rintro ⟨j, digits', hover, hle, hlt⟩
  -- Both are taken by the search, so they are the same.
  have hsame := congrArg (fun a => a.2.digits) (occurrences_eq_of_overlap hmem hover.taken hle hlt)
  obtain rfl : digits = digits' := hsame
  rcases hover.unfit with hsmall | hlarge
  · exact absurd hp.least_le (Nat.not_le.mpr hsmall)
  · exact absurd hp.fits (Nat.not_lt.mpr hlarge)

/-- An occurrence of a rigid template within another one is the same. -/
theorem Rigid.not_swallowed (ht : t.Rigid) (hp : t.PromptAt least hay i digits) :
    ¬t.Swallowed least hay i := by
  rintro ⟨j, digits', hover, hle, hlt⟩
  obtain ⟨hs, -⟩ := standsAt_of_mem_occurrences hover.taken
  rcases Nat.lt_or_eq_of_le hle with hbefore | rfl
  · have happ := ht.le_of_lt hs hp.stands hbefore
    simp only at happ
    omega
  · cases ht.delimited.digits_eq hs hp.stands
    rcases hover.unfit with hsmall | hlarge
    · exact absurd hp.least_le (Nat.not_le.mpr hsmall)
    · exact absurd hp.fits (Nat.not_lt.mpr hlarge)

end Search

end Template

/-! ## The pattern of a prompt -/

/-- What the pattern of a prompt with a number finds is a prompt with a large enough number. It finds
one iff one stands in the output that does not begin within an occurrence that is passed over; the
occurrences of a rigid template never stand within each other, so its prompts are always found. -/
theorem counted_found_unless_swallowed {prompt : String} {t : Template} {least : Nat} {p : Pattern}
    (ht : Template.ofPrompt? prompt = some t) (hp : ofPrompt prompt least = .ok p)
    (hay : List UInt8) :
    (∀ e, p.find? hay = some e → ∃ digits, t.PromptAt least hay e.start digits ∧
        (hay.drop e.start).take e.length = t.word digits) ∧
      ((∃ e, p.find? hay = some e) ↔
        ∃ i digits, t.PromptAt least hay i digits ∧ ¬t.Swallowed least hay i) ∧
      (∀ n i, least ≤ n → n < Nat.pow 2 64 → encode (t.rendered n) <+: hay.drop i →
        (∃ e, p.find? hay = some e) ∨ t.Swallowed least hay i) ∧
      (t.Rigid → ∀ n, least ≤ n → n < Nat.pow 2 64 → encode (t.rendered n) <:+: hay →
        ∃ e, p.find? hay = some e) := by
  obtain rfl : counted t least = p := by
    rw [ofPrompt, ht] at hp
    simp only at hp
    split at hp <;> cases hp
    rfl
  -- A prompt that is not found was swallowed.
  have hfound : ∀ i digits, t.PromptAt least hay i digits → ¬t.Swallowed least hay i →
      ∃ e, (counted t least).find? hay = some e := fun i digits hprompt hnot =>
    Option.ne_none_iff_exists'.mp fun hnone => hnot (hprompt.swallowed hnone)
  refine ⟨fun e he => ?_, ⟨?_, ?_⟩, fun n i hle hfits hpre => ?_, fun hrigid n hle hfits hin => ?_⟩
  · obtain ⟨digits, hprompt, hlen, -⟩ := Template.find?_eq_some he
    exact ⟨digits, hprompt, by rw [hlen, ← List.prefix_iff_eq_take.mp hprompt.stands.here]⟩
  · rintro ⟨e, he⟩
    obtain ⟨digits, hprompt, -⟩ := Template.find?_eq_some he
    exact ⟨e.start, digits, hprompt, Template.not_swallowed_of_find? he⟩
  · rintro ⟨i, digits, hprompt, hnot⟩
    exact hfound i digits hprompt hnot
  · have hprompt := Template.promptAt_of_rendered hpre hfits hle
    exact or_iff_not_imp_right.mpr (hfound i _ hprompt)
  · obtain ⟨before, behind, rfl⟩ := hin
    have hpre : encode (t.rendered n) <+:
        (before ++ encode (t.rendered n) ++ behind).drop before.length := by
      rw [List.append_assoc, List.drop_left]
      exact List.prefix_append _ _
    have hprompt := Template.promptAt_of_rendered hpre hfits hle
    exact hfound _ _ hprompt (hrigid.not_swallowed hprompt)

/-- A template whose occurrences can overlap: the first prompt was painted twice, and the second one
is found behind it. -/
theorem counted_found_behind_repaint :
    let t : Template := ⟨"> ", "> "⟩
    let hay := encode "> 1> ls\n> 1> \n> 2> "
    Template.ofPrompt? "> \x7bn\x7d> " = some t ∧
      ofPrompt "> \x7bn\x7d> " 2 = .ok (counted t 2) ∧ (counted t 2).find? hay = some ⟨14, 5⟩ ∧
        (∃ digits, t.PromptAt 2 hay 14 digits ∧ (hay.drop 14).take 5 = t.word digits) ∧
          ∃ i digits, t.PromptAt 2 hay i digits ∧ ¬t.Swallowed 2 hay i := by
  intro t hay
  have ht : Template.ofPrompt? "> \x7bn\x7d> " = some t := by decide
  have hp : ofPrompt "> \x7bn\x7d> " 2 = .ok (counted t 2) := rfl
  have hfind : (counted t 2).find? hay = some ⟨14, 5⟩ := by decide +kernel
  obtain ⟨hsound, hiff, -⟩ := counted_found_unless_swallowed ht hp hay
  exact ⟨ht, hp, hfind, hsound _ hfind, hiff.mp ⟨_, hfind⟩⟩

/-- A prompt in the output need not be found: the occurrence before it has too small a number and
takes its first bytes away. -/
theorem prompt_swallowed_by_earlier :
    ¬∀ (prompt : String) (t : Template) (least n : Nat) (p : Pattern) (hay : List UInt8),
        Template.ofPrompt? prompt = some t → Template.ofPrompt? t.after = none →
          ofPrompt prompt least = .ok p → least ≤ n → n < Nat.pow 2 64 →
            encode (t.rendered n) <:+: hay → ∃ e, p.find? hay = some e := by
  intro hall
  let t : Template := ⟨"> ", "> "⟩
  have hp : ofPrompt "> \x7bn\x7d> " 2 = .ok (counted t 2) := rfl
  have hin : encode (t.rendered 2) <:+: encode "> 1> 2> " := by decide +kernel
  have hnone : (counted t 2).find? (encode "> 1> 2> ") = none := by decide +kernel
  obtain ⟨e, he⟩ := hall _ t 2 2 _ _ (by decide) (by decide) hp (Nat.le_refl 2) (by decide) hin
  rw [hnone] at he
  cases he

end HistoryAudit.Pattern
