/-
  HistoryAudit.Proofs.Dialogue.RecordedNumber

  The number that a dialogue keeps of a prompt. The search captures the digits of
  each occurrence in the output and takes the first one whose number is large
  enough; the number is kept from a second search, in the text of the match alone.
  Both have the same digits (`Template.Captured.reread`), for every template, so a
  wait for the prompt that matches keeps the number by which its match qualified
  and never keeps a smaller one than before (`recorded_number_qualified`).
-/
import HistoryAudit.Proofs.Dialogue.Repaints

namespace HistoryAudit

open Text.Utf8 (encode lossy)

namespace Pattern

namespace Template

/-- The match at `e` qualifies by `n`: of the occurrences that the search takes it is the first one
whose number fits 64 bits and is at least `least`, and `digits`, which write `n`, are what the search
captures there. -/
structure Captured (t : Template) (least : Nat) (hay : List UInt8) (e : Extent)
    (digits : List UInt8) (n : Nat) : Prop where
  areDigits : AreDigits digits
  bytes : (hay.drop e.start).take e.length = t.word digits
  first : ∃ passed later, t.occurrences hay = passed ++ (e.start, ⟨e.length, digits⟩) :: later ∧
    ∀ o ∈ passed, ∀ k, o.2.number? = some k → k < least
  number : number? digits = some n
  least_le : least ≤ n

variable {t : Template} {least n : Nat} {hay digits : List UInt8} {e : Extent}

/-- What is found qualifies by the digits that are captured. -/
theorem captured_of_find? (h : t.find? least hay = some e) :
    ∃ digits n, t.Captured least hay e digits n := by
  obtain ⟨digits, passed, later, hp, hlen, hsplit, hpassed⟩ := find?_first h
  have hnumber : number? digits = some (value digits) := by
    rw [hp.stands.areDigits.number?_eq, if_pos hp.fits]
  refine ⟨digits, value digits, hp.stands.areDigits, by rw [hlen, hp.bytes], ⟨passed, later, ?_, ?_⟩,
    hnumber, hp.least_le⟩
  · rw [hlen]
    exact hsplit
  · -- What is passed over has no number, or one that is too small.
    intro o ho k hk
    have hsmall := hpassed o ho
    rw [hk, Option.any_some, decide_eq_true_eq] at hsmall
    exact Nat.lt_of_not_le hsmall

/-- In the text of the match alone the same digits are captured. More digits would leave no room for
the text behind them, and fewer are not tried. -/
theorem Captured.reread (h : t.Captured least hay e digits n) :
    (counted t least).number? (lossy ((hay.drop e.start).take e.length)) = some n := by
  have hfront : t.front? (t.word digits) = some ⟨(t.word digits).length, digits⟩ :=
    h.areDigits.front?_word
  rw [h.bytes, h.areDigits.lossy_word, Pattern.number?, h.areDigits.encode_text,
    firstNumber?_of_front? hfront]
  exact h.number

theorem Captured.le_largest (h : t.Captured least hay e digits n) :
    n ≤ Dialogue.largestNumber := by
  have hfits := h.number
  rw [h.areDigits.number?_eq] at hfits
  split at hfits
  · cases hfits
    rename_i hlt
    exact Nat.le_pred_of_lt hlt
  · cases hfits

end Template

end Pattern

namespace Dialogue

open Pattern (Template)

/-- A wait for a prompt with a number that matches has found it in what had arrived of the output, and
keeps the number by which the match qualified. -/
theorem expectPrompt_captured {t : Template} {g g' : Dialogue} {m : Match}
    (ht : Template.ofPrompt? g.prompt = some t) (h : g.expectPrompt = (.ok m, g')) :
    ∃ arrived later e digits n, g.stream = arrived ++ later ∧
      t.Captured g.nextNumber arrived e digits n ∧
      m = ⟨lossy (arrived.take e.start), lossy ((arrived.drop e.start).take e.length)⟩ ∧
      g'.lastNumber? = some n := by
  obtain ⟨g₁, hmatch, rfl⟩ := expectPrompt_counted ht h
  obtain ⟨k, htook, rfl⟩ := expectMatch_took hmatch
  obtain ⟨arrived, rest, later, hstream, hsplit, -⟩ := htook.split
  obtain ⟨e, hfind, hk⟩ := Option.map_eq_some_iff.mp hsplit
  cases hk
  obtain ⟨digits, n, hcaptured⟩ := Template.captured_of_find? hfind
  have hnumber := hcaptured.reread
  refine ⟨arrived, later, e, digits, n, hstream, hcaptured, rfl, ?_⟩
  simp only [Taken.toMatch, hnumber, Option.some_or]

/-- Whatever a counted prompt finds in some output, the text of the match alone gives a number again:
the one by which the match qualified, which is large enough. So a wait for the prompt that matches
always keeps a number, the one of its match, and this is not below the number that was kept before,
which like every number that is kept fits 64 bits. -/
theorem recorded_number_qualified {prompt : String} {t : Template}
    (ht : Template.ofPrompt? prompt = some t) :
    (∀ (least : Nat) (p : Pattern) (hay : List UInt8) (e : Pattern.Extent),
      Pattern.ofPrompt prompt least = .ok p → p.find? hay = some e → ∃ digits n,
        t.Captured least hay e digits n ∧
          p.number? (lossy ((hay.drop e.start).take e.length)) = some n) ∧
    ∀ (g g' : Dialogue) (m : Match), g.prompt = prompt → g.expectPrompt = (.ok m, g') →
      ∃ arrived later e digits n, g.stream = arrived ++ later ∧
        t.Captured g.nextNumber arrived e digits n ∧
        m = ⟨lossy (arrived.take e.start), lossy ((arrived.drop e.start).take e.length)⟩ ∧
        g'.lastNumber? = some n ∧ n ≤ largestNumber ∧
        ∀ last, g.lastNumber? = some last → last ≤ largestNumber → last ≤ n := by
  constructor
  · intro least p hay e hp hfind
    obtain rfl := Pattern.eq_counted_of_ofPrompt ht hp
    obtain ⟨digits, n, hcaptured⟩ := Template.captured_of_find? hfind
    exact ⟨digits, n, hcaptured, hcaptured.reread⟩
  · intro g g' m hprompt hwait
    subst hprompt
    obtain ⟨arrived, later, e, digits, n, hstream, hcaptured, hm, hkept⟩ :=
      expectPrompt_captured ht hwait
    refine ⟨arrived, later, e, digits, n, hstream, hcaptured, hm, hkept, hcaptured.le_largest, ?_⟩
    intro last hlast hfits
    have hle := hcaptured.least_le
    -- The least number is the next one, or the largest one again.
    rw [nextNumber_eq, hlast, leastAfter] at hle
    omega

/-- Digits and longer characters stand on both sides of the number, and a byte that is no text in front
of the output. Of the prompts in the output the first one is passed over, and a dialogue that reads
the second one in two parts keeps the number of each. -/
theorem recorded_number_between_digits :
    let prompt := "é1\x7bn\x7d1é"
    let t : Template := ⟨"é1", "1é"⟩
    let hay := 255 :: encode "é1211é é13111é\n"
    let g : Dialogue := { ofCues [{ output := .data (hay.take 14) },
      { output := .data (hay.drop 14), due := 10 }] with prompt }
    let g₁ := g.expectPrompt.2
    let r := g₁.expectPrompt
    Template.ofPrompt? prompt = some t ∧
      Pattern.ofPrompt prompt 22 = .ok (.counted t 22) ∧
      (Pattern.counted t 22).find? hay = some ⟨10, 9⟩ ∧
      (∃ digits, t.Captured 22 hay ⟨10, 9⟩ digits 311) ∧
      g₁.lastNumber? = some 21 ∧ r.1.toOption = some ⟨" ", "é13111é"⟩ ∧
      ∃ n, r.2.lastNumber? = some n ∧ 21 ≤ n := by
  intro prompt t hay g g₁ r
  have ht : Template.ofPrompt? prompt = some t := by decide +kernel
  have hp : Pattern.ofPrompt prompt 22 = .ok (.counted t 22) := by
    have hlength : Pattern.checkLength t.source = .ok () := by
      unfold Pattern.checkLength
      exact if_pos (by decide +kernel)
    rw [Pattern.ofPrompt, ht]
    simp only [hlength]
  have hfind : (Pattern.counted t 22).find? hay = some ⟨10, 9⟩ := by decide +kernel
  have hfirst : g₁.lastNumber? = some 21 := by decide +kernel
  have hsecond : r.1.toOption = some ⟨" ", "é13111é"⟩ := by decide +kernel
  obtain ⟨hreread, hkept⟩ := recorded_number_qualified ht
  obtain ⟨digits, n, hcaptured, hnumber⟩ := hreread 22 _ hay _ hp hfind
  -- The same digits are read again in the text of the match.
  have hn : (Pattern.counted t 22).number? (lossy ((hay.drop 10).take 9)) = some 311 := by
    decide +kernel
  obtain rfl : 311 = n := Option.some.inj (hn.symm.trans hnumber)
  have hprompt : g₁.prompt = prompt := by decide +kernel
  have hr : r = (.ok ⟨" ", "é13111é"⟩, r.2) := Prod.ext (ok_of_toOption hsecond) rfl
  obtain ⟨-, -, -, -, n, -, -, -, hlast, -, hle⟩ := hkept g₁ r.2 _ hprompt hr
  exact ⟨ht, hp, hfind, ⟨digits, hcaptured⟩, hfirst, hsecond, n, hlast, hle 21 hfirst (by decide)⟩

end Dialogue

end HistoryAudit
