/-
  HistoryAudit.Proofs.Pattern.Delimited

  More output behind what is found. If the template tells where the number ends,
  then what begins earlier ends no later (`Delimited.end_le`). So nothing that is
  still incomplete can come before a prompt that is found, and more output never
  changes what is found (`counted_settled`).
-/
import HistoryAudit.Proofs.Pattern.Swallowed

namespace HistoryAudit.Pattern

open Text.Utf8 (encode)

/-- The first element that does not satisfy `q` comes no later if one looks from further back. -/
theorem length_takeWhile_le {α : Type _} (q : α → Bool) (l : List α) (k : Nat) :
    (l.takeWhile q).length ≤ k + ((l.drop k).takeWhile q).length := by
  induction k generalizing l with
  | zero => exact Nat.le_of_eq (Nat.zero_add _).symm
  | succ k ih =>
    cases l with
    | nil => exact Nat.zero_le _
    | cons x l =>
      have hl := ih l
      rw [List.takeWhile_cons, List.drop_succ_cons]
      split
      · rw [List.length_cons]
        omega
      · exact Nat.zero_le _

namespace Template

variable {t : Template}

section Delimited

variable {hay digits digits' : List UInt8} {i j : Nat}

/-- What begins earlier ends no later. -/
theorem Delimited.end_le (ht : t.Delimited) (hi : t.StandsAt hay i digits)
    (hj : t.StandsAt hay j digits') (hij : i ≤ j) :
    i + (t.word digits).length ≤ j + (t.word digits').length := by
  obtain ⟨k, rfl⟩ := Nat.exists_eq_add_of_le hij
  have hrun := length_takeWhile_le isDigit (hay.drop (i + (encode t.before).length)) k
  have hplace : i + (encode t.before).length + k = i + k + (encode t.before).length := by omega
  rw [List.drop_drop, hplace, ht.run_eq hi, ht.run_eq hj, List.length_append, List.length_append]
    at hrun
  rw [length_word, length_word]
  omega

/-! ## More output -/

theorem Delimited.front?_append (ht : t.Delimited) {o : Occurrence} (h : t.front? hay = some o)
    (more : List UInt8) : t.front? (hay ++ more) = some o := by
  obtain ⟨hs, hlen⟩ := ht.front?_eq_some_iff.mp h
  exact ht.front?_eq_some_iff.mpr ⟨hs.append more, hlen⟩

/-- Before a place where the template stands, more output completes nothing. -/
theorem Delimited.front?_append_of_standsAt (ht : t.Delimited) (hs : t.StandsAt hay i digits)
    (h : t.front? hay = none) (more : List UInt8) : t.front? (hay ++ more) = none := by
  cases hfront : t.front? (hay ++ more) with
  | none => rfl
  | some o =>
    obtain ⟨ho, -⟩ := ht.front?_eq_some_iff.mp hfront
    -- It would end before the end of `hay`, and so it would stand there already.
    have hle := ht.end_le ho (hs.append more) (Nat.zero_le i)
    have hend := hs.le_length
    obtain ⟨o', ho'⟩ := (ho.of_append (hle.trans hend)).exists_front?
    rw [List.drop_zero, h] at ho'
    cases ho'

/-- The first occurrence with a property is that of all longer output. -/
theorem Delimited.find?_occurrencesFrom_append (ht : t.Delimited) (q : Nat × Occurrence → Bool)
    (skip offset : Nat) (hay more : List UInt8) {a : Nat × Occurrence}
    (h : (t.occurrencesFrom skip offset hay).find? q = some a) :
    (t.occurrencesFrom skip offset (hay ++ more)).find? q = some a := by
  fun_induction occurrencesFrom t skip offset hay with
  | case1 => cases h
  | case2 skip offset b rest ih => exact ih h
  | case3 offset b rest o ho ih =>
    rw [List.cons_append, occurrencesFrom, ← List.cons_append, ht.front?_append ho more]
    simp only
    rw [List.find?_cons] at h ⊢
    split at h
    · exact h
    · exact ih h
  | case4 offset b rest hnone ih =>
    obtain ⟨i, o⟩ := a
    obtain ⟨k, -, hfront⟩ := front?_of_mem_occurrencesFrom (List.mem_of_find?_eq_some h)
    -- The occurrence that is found stands behind the first byte.
    have hs : t.StandsAt (b :: rest) (k + 1) o.digits :=
      standsAt_drop.mp (ht.front?_eq_some_iff.mp hfront).1
    have hnone' := ht.front?_append_of_standsAt hs hnone more
    rw [List.cons_append] at hnone' ⊢
    rw [occurrencesFrom, hnone']
    exact ih h

theorem Delimited.find?_append (ht : t.Delimited) {least : Nat} {e : Extent}
    (h : t.find? least hay = some e) (more : List UInt8) :
    t.find? least (hay ++ more) = some e := by
  obtain ⟨a, ha, he⟩ := Option.map_eq_some_iff.mp h
  exact Option.map_eq_some_iff.mpr ⟨a, ht.find?_occurrencesFrom_append _ 0 0 hay more ha, he⟩

end Delimited

end Template

/-! ## The pattern -/

/-- What the pattern of a template finds is a prompt with a large enough number. -/
theorem counted_finds_prompt (t : Template) (least : Nat) :
    (counted t least).Finds fun hay i w =>
      t.find? least hay = some ⟨i, w.length⟩ ∧
        ∃ digits, w = t.word digits ∧ t.PromptAt least hay i digits where
  find?_iff {hay e} := by
    constructor
    · intro h
      obtain ⟨digits, hp, hlen, -⟩ := Template.find?_eq_some h
      exact ⟨t.word digits, ⟨hlen ▸ h, digits, rfl, hp⟩, hlen⟩
    · rintro ⟨w, ⟨h, -⟩, hlen⟩
      rw [← hlen] at h
      exact h
  here := by
    rintro hay i w ⟨-, digits, rfl, hp⟩
    exact hp.stands.here
  le_length := by
    rintro hay i w ⟨-, digits, rfl, hp⟩
    exact (Nat.le_add_right i _).trans hp.stands.le_length

/-- More output never changes what the pattern of a delimited template finds. -/
theorem counted_settled {t : Template} (ht : t.Delimited) (least : Nat) :
    (counted t least).Settled := by
  refine (counted_finds_prompt t least).settled ?_
  rintro hay i w ⟨h, digits, rfl, hp⟩ more
  exact ⟨ht.find?_append h more, digits, rfl, hp.stands.append more, hp.fits, hp.least_le⟩

end HistoryAudit.Pattern
