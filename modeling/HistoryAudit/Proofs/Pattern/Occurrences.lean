/-
  HistoryAudit.Proofs.Pattern.Occurrences

  Where a prompt with a number stands in a byte sequence. What is found at the
  front of a sequence is the occurrence there with the most digits
  (`front?_eq_some_iff`); a delimited template, which tells where the number ends,
  stands at each place with one number only (`Delimited.digits_eq`). The search
  goes on behind each occurrence it finds; for a rigid template no occurrence is
  lost by this, since none begins within another one (`Rigid.occurrences_eq`).
-/
import HistoryAudit.Pattern.Template
import HistoryAudit.Proofs.Text.Occurrence
import Mathlib.Data.List.TakeWhile

namespace HistoryAudit.Pattern.Template

open Text (startsWith startsWith_iff)
open Text.Utf8 (encode)

/-- The bytes of an occurrence with these digits. -/
def word (t : Template) (digits : List UInt8) : List UInt8 :=
  encode t.before ++ digits ++ encode t.after

theorem length_word (t : Template) (digits : List UInt8) :
    (t.word digits).length =
      (encode t.before).length + digits.length + (encode t.after).length := by
  rw [word, List.length_append, List.length_append]

/-- At least one byte, and all of them digits. -/
structure AreDigits (digits : List UInt8) : Prop where
  ne_nil : digits ≠ []
  all : ∀ b ∈ digits, isDigit b = true

/-- The template stands at `i`, with these digits. -/
structure StandsAt (t : Template) (hay : List UInt8) (i : Nat) (digits : List UInt8) : Prop where
  areDigits : AreDigits digits
  here : t.word digits <+: hay.drop i

section StandsAt

variable {t : Template} {hay digits : List UInt8} {i : Nat}

theorem StandsAt.le_length (h : t.StandsAt hay i digits) :
    i + (t.word digits).length ≤ hay.length := by
  have hlen := h.here.length_le
  have hpos := List.length_pos_iff.mpr h.areDigits.ne_nil
  rw [List.length_drop] at hlen
  rw [length_word] at hlen ⊢
  omega

theorem standsAt_drop :
    t.StandsAt (hay.drop i) 0 digits ↔ t.StandsAt hay i digits :=
  ⟨fun ⟨hd, hw⟩ => ⟨hd, hw⟩, fun ⟨hd, hw⟩ => ⟨hd, hw⟩⟩

theorem StandsAt.append (h : t.StandsAt hay i digits) (more : List UInt8) :
    t.StandsAt (hay ++ more) i digits :=
  ⟨h.areDigits, h.here.trans ((List.prefix_append hay more).drop i)⟩

/-- What ends within `hay` stands there already. -/
theorem StandsAt.of_append {more : List UInt8} (h : t.StandsAt (hay ++ more) i digits)
    (hle : i + (t.word digits).length ≤ hay.length) : t.StandsAt hay i digits := by
  refine ⟨h.areDigits, ?_⟩
  refine List.prefix_of_prefix_length_le h.here ((List.prefix_append hay more).drop i) ?_
  rw [List.length_drop]
  omega

theorem StandsAt.before_prefix (h : t.StandsAt hay 0 digits) : encode t.before <+: hay := by
  have hw := h.here
  rw [List.drop_zero, word, List.append_assoc] at hw
  exact (List.prefix_append _ _).trans hw

/-- Behind the first text of the template stand the digits, and the second text behind them. -/
theorem standsAt_append_iff {run : List UInt8} :
    t.StandsAt (encode t.before ++ run) 0 digits ↔
      AreDigits digits ∧ digits <+: run ∧ encode t.after <+: run.drop digits.length := by
  constructor
  · -- Both sides begin with the first text, which cancels.
    rintro ⟨hd, hw⟩
    rw [List.drop_zero, word, List.append_assoc, List.prefix_append_right_inj] at hw
    obtain ⟨rest, rfl⟩ := hw
    rw [List.append_assoc]
    refine ⟨hd, List.prefix_append digits _, ?_⟩
    rw [List.drop_left]
    exact List.prefix_append _ rest
  · rintro ⟨hd, ⟨rest, rfl⟩, ha⟩
    refine ⟨hd, ?_⟩
    rw [List.drop_left] at ha
    rw [List.drop_zero, word, List.append_assoc, List.prefix_append_right_inj,
      List.prefix_append_right_inj]
    exact ha

end StandsAt

/-! ## The occurrence at the front -/

/-- As many digits as possible are taken. -/
theorem digitCount?_eq_some_iff {after run : List UInt8} {count n : Nat} :
    digitCount? after run count = some n ↔
      (0 < n ∧ n ≤ count ∧ after <+: run.drop n) ∧
        ∀ m, n < m → m ≤ count → ¬after <+: run.drop m := by
  induction count with
  | zero =>
    rw [digitCount?]
    constructor
    · rintro ⟨⟩
    · rintro ⟨⟨hpos, hle, -⟩, -⟩
      omega
  | succ count ih =>
    rw [digitCount?]
    by_cases hs : startsWith after (run.drop (count + 1)) = true
    · -- The largest number that is possible is taken at once.
      rw [if_pos hs, Option.some.injEq]
      rw [startsWith_iff] at hs
      constructor
      · rintro rfl
        exact ⟨⟨Nat.succ_pos count, Nat.le_refl _, hs⟩, fun m hlt hle => by omega⟩
      · rintro ⟨⟨hpos, hle, hn⟩, hmax⟩
        by_contra hne
        exact hmax (count + 1) (by omega) (Nat.le_refl _) hs
    · -- It is not possible, so it makes no difference that it is a candidate.
      rw [if_neg hs, ih]
      rw [startsWith_iff] at hs
      constructor
      · rintro ⟨⟨hpos, hle, hn⟩, hmax⟩
        refine ⟨⟨hpos, by omega, hn⟩, fun m hlt hm => ?_⟩
        rcases Nat.le_succ_iff.mp hm with hm | rfl
        · exact hmax m hlt hm
        · exact hs
      · rintro ⟨⟨hpos, hle, hn⟩, hmax⟩
        have hne : n ≠ count + 1 := fun he => hs (he ▸ hn)
        exact ⟨⟨hpos, by omega, hn⟩, fun m hlt hm => hmax m hlt (by omega)⟩

/-- A number of bytes is within the run of digits iff so many bytes are digits. -/
theorem le_length_takeWhile_iff {run : List UInt8} {n : Nat} :
    n ≤ (run.takeWhile isDigit).length ↔
      n ≤ run.length ∧ ∀ b ∈ run.take n, isDigit b = true := by
  constructor
  · intro h
    have hpre := List.takeWhile_prefix (l := run) isDigit
    refine ⟨h.trans hpre.length_le, fun b hb => ?_⟩
    rw [← Nat.min_eq_left h, ← List.take_take, ← List.prefix_iff_eq_take.mp hpre] at hb
    exact List.mem_takeWhile_imp (List.mem_of_mem_take hb)
  · rintro ⟨hle, hall⟩
    rw [← List.take_append_drop n run, List.takeWhile_append_of_pos hall, List.length_append,
      List.length_take]
    omega

theorem front?_append (t : Template) (run : List UInt8) :
    t.front? (encode t.before ++ run) =
      (digitCount? (encode t.after) run (run.takeWhile isDigit).length).map fun n =>
        ⟨(encode t.before).length + n + (encode t.after).length, run.take n⟩ := by
  rw [front?]
  simp only
  rw [if_pos (startsWith_iff.mpr (List.prefix_append _ run)), List.drop_left]

/-- The digits of an occurrence are a possible number of digits, and conversely. -/
theorem standsAt_take_iff {t : Template} {run : List UInt8} {n : Nat} (hn : n ≤ run.length) :
    t.StandsAt (encode t.before ++ run) 0 (run.take n) ↔
      0 < n ∧ n ≤ (run.takeWhile isDigit).length ∧ encode t.after <+: run.drop n := by
  have hlen : (run.take n).length = n := by rw [List.length_take, Nat.min_eq_left hn]
  rw [standsAt_append_iff, le_length_takeWhile_iff, hlen]
  constructor
  · rintro ⟨⟨hne, hall⟩, -, ha⟩
    exact ⟨hlen ▸ List.length_pos_iff.mpr hne, ⟨hn, hall⟩, ha⟩
  · rintro ⟨hpos, ⟨-, hall⟩, ha⟩
    exact ⟨⟨List.length_pos_iff.mp (hlen.symm ▸ hpos), hall⟩, List.take_prefix n run, ha⟩

/-- What is found behind the first text is the occurrence with the most digits. -/
theorem front?_append_eq_some_iff {t : Template} {run : List UInt8} {o : Occurrence} :
    t.front? (encode t.before ++ run) = some o ↔
      (t.StandsAt (encode t.before ++ run) 0 o.digits ∧ o.length = (t.word o.digits).length) ∧
        ∀ digits, t.StandsAt (encode t.before ++ run) 0 digits →
          digits.length ≤ o.digits.length := by
  rw [front?_append, Option.map_eq_some_iff]
  constructor
  · rintro ⟨n, hn, rfl⟩
    obtain ⟨⟨hpos, hle, ha⟩, hmax⟩ := digitCount?_eq_some_iff.mp hn
    have hrun : n ≤ run.length := (le_length_takeWhile_iff.mp hle).1
    have hlen : (run.take n).length = n := by rw [List.length_take, Nat.min_eq_left hrun]
    refine ⟨⟨(standsAt_take_iff hrun).mpr ⟨hpos, hle, ha⟩, ?_⟩, fun digits hd => ?_⟩
    · rw [length_word, hlen]
    · -- The digits of another occurrence are bytes of the same run.
      have hpre := (standsAt_append_iff.mp hd).2.1
      rw [List.prefix_iff_eq_take.mp hpre, standsAt_take_iff hpre.length_le] at hd
      rw [hlen]
      by_contra hlt
      exact hmax digits.length (by omega) hd.2.1 hd.2.2
  · rintro ⟨⟨hs, hlen⟩, hmax⟩
    have hpre := (standsAt_append_iff.mp hs).2.1
    have htake := List.prefix_iff_eq_take.mp hpre
    rw [htake, standsAt_take_iff hpre.length_le] at hs
    refine ⟨o.digits.length, digitCount?_eq_some_iff.mpr ⟨hs, fun m hlt hle ha => ?_⟩, ?_⟩
    · have hrun : m ≤ run.length := (le_length_takeWhile_iff.mp hle).1
      have hm := hmax _ ((standsAt_take_iff hrun).mpr ⟨by omega, hle, ha⟩)
      rw [List.length_take] at hm
      omega
    · rw [← htake, ← length_word, ← hlen]

/-- What is found at the front is the occurrence there with the most digits. -/
theorem front?_eq_some_iff {t : Template} {hay : List UInt8} {o : Occurrence} :
    t.front? hay = some o ↔
      (t.StandsAt hay 0 o.digits ∧ o.length = (t.word o.digits).length) ∧
        ∀ digits, t.StandsAt hay 0 digits → digits.length ≤ o.digits.length := by
  by_cases hb : encode t.before <+: hay
  · obtain ⟨run, rfl⟩ := hb
    exact front?_append_eq_some_iff
  · have hnone : t.front? hay = none := if_neg (mt startsWith_iff.mp hb)
    rw [hnone]
    constructor
    · rintro ⟨⟩
    · rintro ⟨⟨hs, -⟩, -⟩
      exact absurd hs.before_prefix hb

/-- In the bytes of an occurrence the whole occurrence is found. -/
theorem AreDigits.front?_word {t : Template} {digits : List UInt8} (h : AreDigits digits) :
    t.front? (t.word digits) = some ⟨(t.word digits).length, digits⟩ := by
  have hself : t.StandsAt (t.word digits) 0 digits := ⟨h, List.prefix_rfl⟩
  refine front?_eq_some_iff.mpr ⟨⟨hself, rfl⟩, fun digits' hs => ?_⟩
  -- More digits would not fit.
  have hle := hs.le_length
  rw [length_word, length_word] at hle
  show digits'.length ≤ digits.length
  omega

/-! ## All places -/

/-- The occurrences at all places, the first place being `offset`. -/
def places (t : Template) (offset : Nat) (hay : List UInt8) : List (Nat × Occurrence) :=
  (List.range hay.length).filterMap fun i =>
    (t.front? (hay.drop i)).map fun o => (offset + i, o)

theorem places_cons (t : Template) (offset : Nat) (b : UInt8) (hay : List UInt8) :
    t.places offset (b :: hay) =
      ((t.front? (b :: hay)).map fun o => (offset, o)).toList ++ t.places (offset + 1) hay := by
  have hshift : (fun i => (t.front? ((b :: hay).drop i)).map fun o => (offset + i, o)) ∘ Nat.succ =
      fun i => (t.front? (hay.drop i)).map fun o => (offset + 1 + i, o) := by
    funext i
    rw [Function.comp_apply, List.drop_succ_cons, ← Nat.succ_add_eq_add_succ]
  rw [places, List.length_cons, List.range_succ_eq_map, List.filterMap_cons, List.filterMap_map,
    hshift, List.drop_zero]
  cases t.front? (b :: hay) with
  | none => rfl
  | some o => rfl

theorem front?_nil (t : Template) : t.front? [] = none := by
  by_contra hsome
  obtain ⟨o, ho⟩ := Option.ne_none_iff_exists'.mp hsome
  obtain ⟨⟨hs, -⟩, -⟩ := front?_eq_some_iff.mp ho
  have hle := hs.le_length
  have hpos := List.length_pos_iff.mpr hs.areDigits.ne_nil
  rw [length_word, List.length_nil] at hle
  omega

theorem firstNumber?_of_front? {t : Template} {hay : List UInt8} {o : Occurrence}
    (h : t.front? hay = some o) : t.firstNumber? hay = o.number? := by
  cases hay with
  | nil => rw [front?_nil] at h; cases h
  | cons b rest =>
    rw [firstNumber?, occurrences, occurrencesFrom, h]
    rfl

/-- The first of all places that is taken. -/
theorem find?_places_eq_some_iff {t : Template} {hay : List UInt8} {q : Nat × Occurrence → Bool}
    {i : Nat} {o : Occurrence} :
    (t.places 0 hay).find? q = some (i, o) ↔
      (t.front? (hay.drop i) = some o ∧ q (i, o) = true) ∧
        ∀ j < i, ¬(t.front? (hay.drop j)).any (fun o => q (j, o)) = true := by
  have hany : ∀ j, ((t.front? (hay.drop j)).map fun o => (0 + j, o)).any q =
      (t.front? (hay.drop j)).any fun o => q (j, o) := fun j => by
    rw [Option.any_map, Nat.zero_add]
  rw [places, List.find?_filterMap, Option.bind_eq_some_iff]
  simp only [hany, List.find?_range_eq_some, Bool.not_eq_true, Bool.not_eq_true']
  constructor
  · rintro ⟨k, ⟨hk, -, hfirst⟩, ho⟩
    obtain ⟨o', ho', he⟩ := Option.map_eq_some_iff.mp ho
    rw [Nat.zero_add] at he
    cases he
    rw [ho', Option.any_some] at hk
    exact ⟨⟨ho', hk⟩, hfirst⟩
  · rintro ⟨⟨ho, hq⟩, hfirst⟩
    -- Nothing is found behind the end, so the place is among those that are looked at.
    have hi : i < hay.length := by
      by_contra hle
      rw [List.drop_eq_nil_of_le (Nat.le_of_not_lt hle), front?_nil] at ho
      cases ho
    refine ⟨i, ⟨?_, List.mem_range.mpr hi, hfirst⟩, ?_⟩
    · rw [ho, Option.any_some, hq]
    · rw [ho, Option.map_some, Nat.zero_add]

/-! ## Delimited templates -/

/-- What stands behind the number is not made of digits alone, so it tells where the number ends. -/
def Delimited (t : Template) : Prop := ∃ b ∈ encode t.after, isDigit b = false

section Delimited

variable {t : Template} {hay digits digits' : List UInt8} {i : Nat}

/-- The bytes up to the first one that is no digit are those of the number, and those that stand at
the front of what is behind it. -/
theorem Delimited.run_eq (ht : t.Delimited) (h : t.StandsAt hay i digits) :
    (hay.drop (i + (encode t.before).length)).takeWhile isDigit =
      digits ++ (encode t.after).takeWhile isDigit := by
  obtain ⟨rest, hrest⟩ := h.here
  obtain ⟨b, hb, hdigit⟩ := ht
  have hstop : ¬∀ b ∈ encode t.after, isDigit b = true := fun hall => by
    rw [hall b hb] at hdigit
    cases hdigit
  rw [← List.drop_drop, ← hrest, word, List.append_assoc, List.append_assoc, List.drop_left,
    List.takeWhile_append_of_pos h.areDigits.all, List.takeWhile_append,
    if_neg (fun hlen => hstop ?_)]
  rw [← List.takeWhile_eq_self_iff]
  exact (List.takeWhile_prefix isDigit).eq_of_length hlen

/-- At each place the template stands with one number only. -/
theorem Delimited.digits_eq (ht : t.Delimited) (h : t.StandsAt hay i digits)
    (h' : t.StandsAt hay i digits') : digits = digits' :=
  List.append_cancel_right ((ht.run_eq h).symm.trans (ht.run_eq h'))

theorem Delimited.front?_eq_some_iff (ht : t.Delimited) {o : Occurrence} :
    t.front? hay = some o ↔
      t.StandsAt hay 0 o.digits ∧ o.length = (t.word o.digits).length := by
  rw [Template.front?_eq_some_iff]
  refine ⟨And.left, fun h => ⟨h, fun digits hd => ?_⟩⟩
  rw [ht.digits_eq hd h.1]

end Delimited

/-! ## Rigid templates -/

/-- An occurrence begins with a byte that is nowhere else in it, and what stands behind the number
does not go on with it. -/
structure Rigid (t : Template) : Prop where
  lead : ∃ b bs, encode t.before = b :: bs ∧ b ∉ bs ∧ b ∉ encode t.after ∧ isDigit b = false
  stop : ∃ b bs, encode t.after = b :: bs ∧ isDigit b = false

section Rigid

variable {t : Template} {hay digits digits' : List UInt8} {i j : Nat}

theorem Rigid.exists_lead (ht : t.Rigid) :
    ∃ b, ∀ digits, AreDigits digits → ∃ bs, t.word digits = b :: bs ∧ b ∉ bs := by
  obtain ⟨b, bs, hb, hbs, ha, hd⟩ := ht.lead
  refine ⟨b, fun digits h => ⟨bs ++ digits ++ encode t.after, ?_, ?_⟩⟩
  · rw [word, hb, List.cons_append, List.cons_append]
  · have hdigits : b ∉ digits := fun hmem => by rw [h.all b hmem] at hd; cases hd
    rw [List.mem_append, List.mem_append]
    rintro ((h | h) | h)
    · exact hbs h
    · exact hdigits h
    · exact ha h

theorem Rigid.delimited (ht : t.Rigid) : t.Delimited := by
  obtain ⟨b, bs, ha, hb⟩ := ht.stop
  exact ⟨b, ha ▸ List.mem_cons_self, hb⟩

/-- An occurrence ends before the next one begins. -/
theorem Rigid.le_of_lt (ht : t.Rigid) (hi : t.StandsAt hay i digits)
    (hj : t.StandsAt hay j digits') (hij : i < j) : i + (t.word digits).length ≤ j := by
  by_contra hlt
  obtain ⟨b, hb⟩ := ht.exists_lead
  obtain ⟨bs, hw, hbs⟩ := hb digits hi.areDigits
  obtain ⟨bs', hw', -⟩ := hb digits' hj.areDigits
  obtain ⟨k, rfl⟩ : ∃ k, j = i + (k + 1) := ⟨j - i - 1, by omega⟩
  have hi' := hi.here
  have hj' := hj.here
  rw [hw] at hi' hlt
  rw [hw'] at hj'
  have hk : k < bs.length := by
    rw [List.length_cons] at hlt
    omega
  -- The byte at `j` begins the second occurrence and is within the first one.
  have h1 := List.prefix_iff_getElem?.mp hj' 0 (Nat.succ_pos _)
  have h2 := List.prefix_iff_getElem?.mp hi' (k + 1) (Nat.succ_lt_succ hk)
  rw [List.getElem?_drop] at h1 h2
  rw [Nat.add_zero, h2, Option.some.injEq, List.getElem_cons_succ, List.getElem_cons_zero] at h1
  exact hbs (h1 ▸ List.getElem_mem hk)

/-- Behind the next `skip` bytes the search finds all occurrences, if none begins in them. -/
theorem Rigid.occurrencesFrom_eq (ht : t.Rigid) (skip offset : Nat) (hay : List UInt8)
    (hskip : ∀ i < skip, t.front? (hay.drop i) = none) :
    t.occurrencesFrom skip offset hay = t.places offset hay := by
  fun_induction occurrencesFrom t skip offset hay with
  | case1 => rfl
  | case2 skip offset b rest ih =>
    have hnone : t.front? (b :: rest) = none := hskip 0 (Nat.succ_pos skip)
    rw [places_cons, hnone, ih fun i hi => hskip (i + 1) (Nat.succ_lt_succ hi)]
    rfl
  | case3 offset b rest o ho ih =>
    obtain ⟨hs, hlen⟩ := ht.delimited.front?_eq_some_iff.mp ho
    rw [places_cons, ho, ih]
    · rfl
    · -- An occurrence in the bytes that are skipped would begin within this one.
      intro i hi
      by_contra hsome
      obtain ⟨o', ho'⟩ := Option.ne_none_iff_exists'.mp hsome
      have hs' : t.StandsAt (b :: rest) (i + 1) o'.digits :=
        standsAt_drop.mp (ht.delimited.front?_eq_some_iff.mp ho').1
      have hle := ht.le_of_lt hs hs' (Nat.succ_pos i)
      omega
  | case4 offset b rest hnone ih =>
    rw [places_cons, hnone, ih fun i hi => absurd hi (Nat.not_lt_zero i)]
    rfl

/-- The occurrences of a rigid template are those at all places. -/
theorem Rigid.occurrences_eq (ht : t.Rigid) (hay : List UInt8) :
    t.occurrences hay = t.places 0 hay :=
  ht.occurrencesFrom_eq 0 0 hay fun i hi => absurd hi (Nat.not_lt_zero i)

end Rigid

end HistoryAudit.Pattern.Template
