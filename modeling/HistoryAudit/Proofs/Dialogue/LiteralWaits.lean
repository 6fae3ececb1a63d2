/-
  HistoryAudit.Proofs.Dialogue.LiteralWaits

  Waits for texts, one after the other, against a cursor in the byte stream:
  each text is found where it stands first behind the match before it. The
  matches are decided by the stream alone, so it makes no difference how the
  stream was cut into reads.
-/
import HistoryAudit.Proofs.Dialogue.Stream

namespace HistoryAudit

namespace Dialogue

open Text (FirstAt)
open Text.Utf8 (encode lossy lossy_encode)

/-- Texts found in a stream, one behind the other: each stands first in what follows the match
before it, and the output up to there is what came before it. -/
inductive InOrder : List String → List UInt8 → List Match → Prop where
  | nil (stream : List UInt8) : InOrder [] stream []
  | cons {text : String} {texts : List String} {before rest : List UInt8} {ms : List Match}
      (first : FirstAt (encode text) (before ++ encode text ++ rest) before.length)
      (others : InOrder texts rest ms) :
      InOrder (text :: texts) (before ++ encode text ++ rest) (⟨lossy before, text⟩ :: ms)

/-- The stream decides the matches. -/
theorem InOrder.eq {texts : List String} {stream : List UInt8} {ms ms' : List Match}
    (h : InOrder texts stream ms) (h' : InOrder texts stream ms') : ms = ms' := by
  induction h generalizing ms' with
  | nil => cases h'; rfl
  | @cons text texts before rest ms first others ih =>
    generalize hs : before ++ encode text ++ rest = stream at h' first
    cases h' with
    | @cons _ _ before' rest' ms' first' others' =>
      -- There is one first place, so what stands before and behind it agrees.
      have hlen : before.length = before'.length := first.eq (hs ▸ first')
      rw [List.append_assoc, List.append_assoc] at hs
      obtain ⟨hbefore, hrest⟩ := List.append_inj hs hlen
      rw [hbefore, ih (List.append_cancel_left hrest ▸ others')]

/-- A wait for a text that matches finds it where it stands first in the stream. -/
theorem expectLiteral_first {text : String} {g g' : Dialogue} {m : Match}
    (h : g.expectLiteral text = (.ok m, g')) :
    ∃ before, g.stream = before ++ encode text ++ g'.stream ∧
      FirstAt (encode text) g.stream before.length ∧ m = ⟨lossy before, text⟩ := by
  obtain ⟨t, hsplit, hm, -⟩ := expectMatch_split (Pattern.literal_settled text) h
  obtain ⟨happ, hmatched, hfirst⟩ := (Pattern.literal_finds text).split?_iff.mp hsplit
  refine ⟨t.before, ?_, hfirst, ?_⟩
  · rw [← hmatched, happ]
  · rw [hm, Taken.toMatch, hmatched, lossy_encode]

/-- Waits for texts that all match find them in their order. -/
theorem expectAll_literals {texts : List String} {g : Dialogue} {ms : List Match}
    (h : (expectAll (texts.map fun text g => g.expectLiteral text) g).1 = .ok ms) :
    InOrder texts g.stream ms := by
  induction texts generalizing g ms with
  | nil => cases h; exact .nil g.stream
  | cons text texts ih =>
    obtain ⟨m, g', ms', hw, hws, rfl⟩ := expectAll_cons_ok h
    obtain ⟨before, hstream, hfirst, rfl⟩ := expectLiteral_first hw
    rw [hstream] at hfirst ⊢
    exact .cons hfirst (ih hws)

/-- Waits for texts that all match give what the stream decides, and so the same in every dialogue
with that stream, however its device cuts it into reads. -/
theorem literal_waits_of_stream (texts : List String) (stream : List UInt8) :
    (∀ g ms, g.stream = stream →
        (expectAll (texts.map fun text g => g.expectLiteral text) g).1 = .ok ms →
          InOrder texts stream ms) ∧
      ∀ g g' ms ms', g.stream = stream → g'.stream = stream →
        (expectAll (texts.map fun text g => g.expectLiteral text) g).1 = .ok ms →
          (expectAll (texts.map fun text g => g.expectLiteral text) g').1 = .ok ms' →
            ms = ms' := by
  refine ⟨fun g ms hg h => hg ▸ expectAll_literals h, fun g g' ms ms' hg hg' h h' => ?_⟩
  have hms : InOrder texts stream ms := hg ▸ expectAll_literals h
  have hms' : InOrder texts stream ms' := hg' ▸ expectAll_literals h'
  exact hms.eq hms'

/-- Two bytes of a character come in different reads of the first dialogue, with a pause between
them, and all bytes at once in the second. -/
theorem literal_waits_cut_in_character :
    let ms : List Match := [⟨"x", "é>"⟩, ⟨"y", ">"⟩]
    let cut := ofCues [{ output := .data [120, 0xc3] }, { output := .idle },
      { output := .data [0xa9, 62, 121] }, { output := .interrupted }, { output := .data [62] }]
    let whole := ofCues [{ output := .data [120, 0xc3, 0xa9, 62, 121, 62] }]
    let run := fun g => (expectAll (["é>", ">"].map fun text g => g.expectLiteral text) g).1
    (cut.stream = whole.stream ∧ run cut = .ok ms ∧ run whole = .ok ms) ∧
      InOrder ["é>", ">"] whole.stream ms ∧ ∀ ms', run whole = .ok ms' → ms = ms' := by
  intro ms cut whole run
  have hcut : run cut = .ok ms := expectAll_ok (by decide +kernel)
  have hwhole : run whole = .ok ms := expectAll_ok (by decide +kernel)
  obtain ⟨hin, hsame⟩ := literal_waits_of_stream ["é>", ">"] whole.stream
  exact ⟨⟨rfl, hcut, hwhole⟩, hin cut ms rfl hcut,
    fun ms' h => hsame cut whole ms ms' rfl rfl hcut h⟩

end Dialogue

end HistoryAudit
