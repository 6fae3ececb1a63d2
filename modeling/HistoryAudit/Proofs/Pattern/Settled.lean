/-
  HistoryAudit.Proofs.Pattern.Settled

  A pattern splits output into what is before its first match, the match, and
  what is behind it. A pattern is settled if more output never changes the
  split, so that it does not matter how much has arrived when it is found. The
  literal patterns are settled (`literal_settled`).
-/
import HistoryAudit.Dialogue.Basic
import HistoryAudit.Proofs.Text.Occurrence
import HistoryAudit.Proofs.Text.Utf8

namespace HistoryAudit

open Dialogue (Taken)
open Text (FirstAt)
open Text.Utf8 (encode)

namespace Pattern

/-- The first match with what is before it, and what is behind it. -/
def split? (p : Pattern) (hay : List UInt8) : Option (Taken × List UInt8) :=
  (p.find? hay).map fun e =>
    (⟨hay.take e.start, (hay.drop e.start).take e.length⟩, (hay.drop e.start).drop e.length)

/-- The first match of some output is that of all longer output. -/
def Settled (p : Pattern) : Prop :=
  ∀ hay t rest, p.split? hay = some (t, rest) →
    ∀ more, p.split? (hay ++ more) = some (t, rest ++ more)

/-- A split leaves nothing out. -/
theorem append_of_split? {p : Pattern} {hay rest : List UInt8} {t : Taken}
    (h : p.split? hay = some (t, rest)) : t.before ++ t.matched ++ rest = hay := by
  obtain ⟨e, -, he⟩ := Option.map_eq_some_iff.mp h
  cases he
  rw [List.append_assoc, List.take_append_drop, List.take_append_drop]

/-- The split at an extent whose parts are known. -/
theorem split?_of_find? {p : Pattern} {before matched rest : List UInt8}
    (h : p.find? (before ++ matched ++ rest) = some ⟨before.length, matched.length⟩) :
    p.split? (before ++ matched ++ rest) = some (⟨before, matched⟩, rest) := by
  rw [split?, h, Option.map_some, List.append_assoc, List.take_left, List.drop_left,
    List.take_left, List.drop_left]

/-- A pattern finds words at places: `q hay i w` says that `w` is the word to be found in `hay`, and
`i` its place. -/
structure Finds (p : Pattern) (q : List UInt8 → Nat → List UInt8 → Prop) : Prop where
  find?_iff : ∀ {hay e}, p.find? hay = some e ↔ ∃ w, q hay e.start w ∧ e.length = w.length
  here : ∀ {hay i w}, q hay i w → w <+: hay.drop i
  le_length : ∀ {hay i w}, q hay i w → i ≤ hay.length

section Finds

variable {p : Pattern} {q : List UInt8 → Nat → List UInt8 → Prop}

/-- Such a pattern splits output at the place of the word. -/
theorem Finds.split?_iff (h : p.Finds q) {hay rest : List UInt8} {t : Taken} :
    p.split? hay = some (t, rest) ↔
      t.before ++ t.matched ++ rest = hay ∧ q hay t.before.length t.matched := by
  constructor
  · intro hs
    refine ⟨append_of_split? hs, ?_⟩
    obtain ⟨e, he, ht⟩ := Option.map_eq_some_iff.mp hs
    obtain ⟨w, hw, hlen⟩ := h.find?_iff.mp he
    -- What is cut out at the place is the word itself.
    have hword : (hay.drop e.start).take e.length = w := by
      rw [hlen, ← List.prefix_iff_eq_take.mp (h.here hw)]
    cases ht
    simp only
    rwa [hword, List.length_take, Nat.min_eq_left (h.le_length hw)]
  · rintro ⟨rfl, hw⟩
    exact split?_of_find? (h.find?_iff.mpr ⟨t.matched, hw, rfl⟩)

/-- If more output changes neither the word nor its place, then it does not change the split. -/
theorem Finds.settled (h : p.Finds q)
    (happ : ∀ {hay i w}, q hay i w → ∀ more, q (hay ++ more) i w) : p.Settled := by
  intro hay t rest hs more
  obtain ⟨hhay, hw⟩ := h.split?_iff.mp hs
  refine h.split?_iff.mpr ⟨?_, happ hw more⟩
  rw [← List.append_assoc, hhay]

end Finds

/-! ## Literals -/

/-- A literal finds its bytes where they stand first. -/
theorem literal_finds (text : String) :
    (literal text).Finds fun hay i w => w = encode text ∧ FirstAt (encode text) hay i where
  find?_iff {hay e} := by
    rw [find?, Option.map_eq_some_iff]
    constructor
    · rintro ⟨i, hi, rfl⟩
      exact ⟨encode text, ⟨rfl, Text.findFirst?_eq_some_iff.mp hi⟩, rfl⟩
    · rintro ⟨w, ⟨rfl, hfirst⟩, hlen⟩
      exact ⟨e.start, Text.findFirst?_eq_some_iff.mpr hfirst, by rw [← hlen]⟩
  here := by
    rintro hay i w ⟨rfl, hfirst⟩
    exact hfirst.here
  le_length h := h.2.le_length

theorem literal_settled (text : String) : (literal text).Settled :=
  (literal_finds text).settled fun h more => ⟨h.1, h.2.append more⟩

end Pattern

end HistoryAudit
