/-
  HistoryAudit.Proofs.Pattern.Reread

  What the search finds is the first occurrence whose number is large enough
  (`find?_first`), and its number is read again from the bytes of the match alone.
  For every template this gives the digits by which the match was found
  (`counted_split`): the digits of an occurrence are as many as possible, and the
  bytes of the occurrence leave no room for more than it has.
-/
import HistoryAudit.Proofs.Pattern.Counted

namespace HistoryAudit.Pattern

open Text.Utf8 (encode)

namespace Template

variable {t : Template} {hay : List UInt8}

/-- Every occurrence of the list is the one at the front of what begins at its place. -/
theorem front?_of_mem_occurrencesFrom {skip offset i : Nat} {o : Occurrence}
    (h : (i, o) ∈ t.occurrencesFrom skip offset hay) :
    ∃ k, i = offset + k ∧ t.front? (hay.drop k) = some o := by
  -- What is found behind the first byte is found one place further on.
  have shift : ∀ {offset : Nat} {b : UInt8} {rest : List UInt8},
      (∃ k, i = offset + 1 + k ∧ t.front? (rest.drop k) = some o) →
        ∃ k, i = offset + k ∧ t.front? ((b :: rest).drop k) = some o := by
    rintro offset b rest ⟨k, hi, hk⟩
    have hplace : offset + 1 + k = offset + (k + 1) := by omega
    exact ⟨k + 1, hi.trans hplace, hk⟩
  fun_induction occurrencesFrom t skip offset hay with
  | case1 => exact absurd h List.not_mem_nil
  | case2 skip offset b rest ih => exact shift (ih h)
  | case3 offset b rest o' hfront ih =>
    rcases List.mem_cons.mp h with heq | h
    · cases heq
      exact ⟨0, rfl, hfront⟩
    · exact shift (ih h)
  | case4 offset b rest hfront ih => exact shift (ih h)

section Found

variable {least i : Nat} {digits : List UInt8}

theorem standsAt_of_mem_occurrences {o : Occurrence} (h : (i, o) ∈ t.occurrences hay) :
    t.StandsAt hay i o.digits ∧ o = ⟨(t.word o.digits).length, o.digits⟩ := by
  obtain ⟨k, hk, hfront⟩ := front?_of_mem_occurrencesFrom h
  rw [Nat.zero_add] at hk
  subst hk
  obtain ⟨⟨hs, hlen⟩, -⟩ := front?_eq_some_iff.mp hfront
  exact ⟨standsAt_drop.mp hs, by rw [← hlen]⟩

/-- What is found is the first one with a large enough number of the occurrences that the search
takes. -/
theorem find?_first {e : Extent} (h : t.find? least hay = some e) :
    ∃ digits passed later, t.PromptAt least hay e.start digits ∧
      e.length = (t.word digits).length ∧
      t.occurrences hay = passed ++ (e.start, ⟨(t.word digits).length, digits⟩) :: later ∧
      ∀ o ∈ passed, ¬o.2.number?.any (least ≤ ·) = true := by
  obtain ⟨⟨i, o⟩, hfound, he⟩ := Option.map_eq_some_iff.mp h
  cases he
  obtain ⟨hnumber, passed, later, hsplit, hpassed⟩ := List.find?_eq_some_iff_append.mp hfound
  obtain ⟨hs, ho⟩ := standsAt_of_mem_occurrences (List.mem_of_find?_eq_some hfound)
  obtain ⟨hfits, hle⟩ := hs.areDigits.any_number?_iff.mp hnumber
  refine ⟨o.digits, passed, later, ⟨hs, hfits, hle⟩, congrArg Occurrence.length ho, ho ▸ hsplit, ?_⟩
  intro o' ho'
  simpa using hpassed o' ho'

/-- What is found is an occurrence that the search takes, with a large enough number. -/
theorem find?_eq_some {e : Extent} (h : t.find? least hay = some e) :
    ∃ digits, t.PromptAt least hay e.start digits ∧ e.length = (t.word digits).length ∧
      (e.start, ⟨(t.word digits).length, digits⟩) ∈ t.occurrences hay := by
  obtain ⟨digits, passed, later, hp, hlen, hsplit, -⟩ := find?_first h
  refine ⟨digits, hp, hlen, ?_⟩
  rw [hsplit]
  exact List.mem_append_right _ List.mem_cons_self

theorem PromptAt.bytes (h : t.PromptAt least hay i digits) :
    (hay.drop i).take (t.word digits).length = t.word digits :=
  (List.prefix_iff_eq_take.mp h.stands.here).symm

/-- The bytes of a prompt are text, so nothing of them is replaced. -/
theorem AreDigits.lossy_word (h : AreDigits digits) :
    Text.Utf8.lossy (t.word digits) = t.text digits := by
  rw [← h.encode_text, Text.Utf8.lossy_encode]

end Found

end Template

/-- The split at a prompt: the match is the text of a prompt whose number is large enough, and this
number is read again from it. -/
theorem counted_split {t : Template} {least : Nat} {hay rest : List UInt8} {k : Dialogue.Taken}
    (h : (counted t least).split? hay = some (k, rest)) :
    ∃ digits, t.PromptAt least hay k.before.length digits ∧ k.toMatch.matched = t.text digits ∧
      (counted t least).number? k.toMatch.matched = some (Template.value digits) := by
  obtain ⟨e, he, hk⟩ := Option.map_eq_some_iff.mp h
  cases hk
  obtain ⟨digits, hp, hlen, -⟩ := Template.find?_eq_some he
  have htext : Text.Utf8.lossy ((hay.drop e.start).take e.length) = t.text digits := by
    rw [hlen, hp.bytes, hp.stands.areDigits.lossy_word]
  have hle : e.start ≤ hay.length := (Nat.le_add_right _ _).trans hp.stands.le_length
  refine ⟨digits, ?_, htext, ?_⟩
  · rwa [List.length_take, Nat.min_eq_left hle]
  · rw [Dialogue.Taken.toMatch, htext]
    exact counted_number? hp

end HistoryAudit.Pattern
