/-
  HistoryAudit.Proofs.Dialogue.PromptWaits

  Waits for prompts with a number, one after the other, against a cursor in the
  byte stream: each prompt is the first one behind the match before it whose
  number is large enough. For a rigid template, such as that of the default
  prompt, the stream alone decides the matches.
-/
import HistoryAudit.Proofs.Dialogue.Stream
import HistoryAudit.Proofs.Pattern.Delimited

namespace HistoryAudit

namespace Dialogue

open Pattern (Template)
open Pattern.Template (Rigid FirstPrompt value)
open Text.Utf8 (encode lossy lossy_encode)

/-- A prompt in a stream: the output before it, and its digits. -/
structure Prompt where
  before : List UInt8
  digits : List UInt8

/-- The number of a prompt. -/
def Prompt.number (p : Prompt) : Nat := value p.digits

/-- The match that a prompt is. -/
def Prompt.toMatch (t : Template) (p : Prompt) : Match := ⟨lossy p.before, t.text p.digits⟩

/-- The least number that may follow: any if there was none yet, and else a greater one, as long as
there are greater ones. -/
def leastAfter : Option Nat → Nat
  | none => 0
  | some n => min (n + 1) largestNumber

/-- Prompts found in a stream, one behind the other: each is the first one in what follows the
prompt before it whose number is not too small. -/
inductive PromptsInOrder (t : Template) : Option Nat → List UInt8 → List Prompt → Prop where
  | nil (last? : Option Nat) (stream : List UInt8) : PromptsInOrder t last? stream []
  | cons {last? : Option Nat} {p : Prompt} {rest : List UInt8} {ps : List Prompt}
      (first : t.FirstPrompt (leastAfter last?) (p.before ++ t.word p.digits ++ rest)
        p.before.length p.digits)
      (others : PromptsInOrder t (some p.number) rest ps) :
      PromptsInOrder t last? (p.before ++ t.word p.digits ++ rest) (p :: ps)

section PromptsInOrder

variable {t : Template} {last? : Option Nat} {stream : List UInt8} {ps ps' : List Prompt}

/-- The stream decides the prompts. -/
theorem PromptsInOrder.eq (ht : t.Rigid) (h : PromptsInOrder t last? stream ps)
    (h' : PromptsInOrder t last? stream ps') (hlen : ps.length = ps'.length) : ps = ps' := by
  induction h generalizing ps' with
  | nil =>
    cases h' with
    | nil => rfl
    | cons => cases hlen
  | @cons last? p rest ps first others ih =>
    generalize hs : p.before ++ t.word p.digits ++ rest = stream at h' first
    cases h' with
    | nil => cases hlen
    | @cons _ p' rest' ps' first' others' =>
      -- There is one first prompt, so what stands before and behind it agrees.
      obtain ⟨hi, hd⟩ := ht.firstPrompt_eq first first'
      rw [List.append_assoc, List.append_assoc] at hs
      obtain ⟨hbefore, hrest⟩ := List.append_inj hs hi
      obtain ⟨before, digits⟩ := p
      obtain ⟨before', digits'⟩ := p'
      cases hd
      cases hbefore
      cases List.append_cancel_left hrest
      rw [ih others' (Nat.succ.inj hlen)]

/-- No prompt is taken whose number is too small. -/
theorem PromptsInOrder.least_le (h : PromptsInOrder t last? stream ps) :
    ∀ p ∈ ps, leastAfter last? ≤ p.number := by
  -- Each prompt raises the least number for those behind it.
  induction h with
  | nil => exact fun p hp => absurd hp List.not_mem_nil
  | @cons last? p rest ps first others ih =>
    have hle : leastAfter last? ≤ p.number := first.here.least_le
    have hfits : p.number < Nat.pow 2 64 := first.here.fits
    intro q hq
    rcases List.mem_cons.mp hq with rfl | hq
    · exact hle
    · -- The number fits 64 bits, so the least one that follows is not below it.
      have hnext : p.number ≤ leastAfter (some p.number) := by
        rw [leastAfter, largestNumber]
        omega
      exact (hle.trans hnext).trans (ih q hq)

/-- Every number is greater than all before it, unless the largest one was reached. -/
theorem PromptsInOrder.pairwise (h : PromptsInOrder t last? stream ps) :
    ps.Pairwise fun p q => leastAfter (some p.number) ≤ q.number := by
  induction h with
  | nil => exact .nil
  | cons first others ih => exact .cons others.least_le ih

end PromptsInOrder

/-! ## The waits -/

/-- The dialogue waits for this prompt, behind this number and in this stream. -/
structure Awaits (prompt : String) (last? : Option Nat) (stream : List UInt8) (g : Dialogue) :
    Prop where
  prompt : g.prompt = prompt
  lastNumber : g.lastNumber? = last?
  stream : g.stream = stream

theorem nextNumber_eq (g : Dialogue) : g.nextNumber = leastAfter g.lastNumber? := by
  rw [nextNumber]
  cases g.lastNumber? with
  | none => rfl
  | some n => rfl

/-- A wait for the prompt is one for its pattern, and the number of the match is kept. -/
theorem expectPrompt_ok {p : Pattern} {g g' : Dialogue} {m : Match}
    (hp : Pattern.ofPrompt g.prompt g.nextNumber = .ok p) (h : g.expectPrompt = (.ok m, g')) :
    ∃ g₁, g.expectMatch p = (.ok m, g₁) ∧
      g' = { g₁ with lastNumber? := (p.number? m.matched).or g₁.lastNumber? } := by
  rw [expectPrompt, hp] at h
  simp only at h
  split at h
  · rename_i g₁ hm
    cases h
    exact ⟨g₁, hm, rfl⟩
  · cases h

/-- A wait for a prompt with a counter mark is one for a number that is large enough. -/
theorem expectPrompt_counted {t : Template} {g g' : Dialogue} {m : Match}
    (ht : Template.ofPrompt? g.prompt = some t) (h : g.expectPrompt = (.ok m, g')) :
    ∃ g₁, g.expectMatch (.counted t g.nextNumber) = (.ok m, g₁) ∧
      g' = { g₁ with
        lastNumber? := ((Pattern.counted t g.nextNumber).number? m.matched).or g₁.lastNumber? } := by
  cases hp : Pattern.ofPrompt g.prompt g.nextNumber with
  | error f =>
    rw [expectPrompt, hp] at h
    cases h
  | ok p =>
    obtain rfl := Pattern.eq_counted_of_ofPrompt ht hp
    exact expectPrompt_ok hp h

section Waits

variable {t : Template} {prompt : String} {last? : Option Nat} {stream : List UInt8}

/-- A wait that matches takes the first prompt whose number is large enough, and keeps it. -/
theorem expectPrompt_first {g g' : Dialogue} {m : Match} (ht : t.Rigid)
    (hp : ∀ least, Pattern.ofPrompt prompt least = .ok (.counted t least))
    (hg : Awaits prompt last? stream g) (h : g.expectPrompt = (.ok m, g')) :
    ∃ (p : Prompt) (rest : List UInt8), stream = p.before ++ t.word p.digits ++ rest ∧
      t.FirstPrompt (leastAfter last?) stream p.before.length p.digits ∧
      m = p.toMatch t ∧ Awaits prompt (some p.number) rest g' := by
  obtain ⟨rfl, rfl, rfl⟩ := hg
  obtain ⟨g₁, hm, rfl⟩ := expectPrompt_ok (hp g.nextNumber) h
  obtain ⟨k, hsplit, rfl, hsame⟩ := expectMatch_split (Pattern.counted_settled ht.delimited _) hm
  obtain ⟨happ, digits, hword, hfirst⟩ := (Pattern.counted_finds ht _).split?_iff.mp hsplit
  -- The bytes of a prompt are text, so nothing of them is replaced.
  have hmatch : k.toMatch = (Prompt.mk k.before digits).toMatch t := by
    rw [Taken.toMatch, hword, ← hfirst.here.stands.areDigits.encode_text, lossy_encode]
    rfl
  have hnumber := Pattern.counted_number? hfirst.here
  rw [hword] at happ
  rw [nextNumber_eq] at hfirst
  refine ⟨⟨k.before, digits⟩, g₁.stream, happ.symm, hfirst, hmatch, hsame.prompt, ?_, rfl⟩
  rw [hmatch]
  exact congrArg (Option.or · g₁.lastNumber?) hnumber

/-- Waits for prompts that all match find them in their order. -/
theorem expectAll_prompts {count : Nat} {g : Dialogue} {ms : List Match} (ht : t.Rigid)
    (hp : ∀ least, Pattern.ofPrompt prompt least = .ok (.counted t least))
    (hg : Awaits prompt last? stream g)
    (h : (expectAll (List.replicate count expectPrompt) g).1 = .ok ms) :
    ∃ ps, PromptsInOrder t last? stream ps ∧ ps.length = count ∧
      ms = ps.map (Prompt.toMatch t) := by
  induction count generalizing last? stream g ms with
  | zero =>
    cases h
    exact ⟨[], .nil last? stream, rfl, rfl⟩
  | succ count ih =>
    rw [List.replicate_succ] at h
    obtain ⟨m, g', ms', hw, hws, rfl⟩ := expectAll_cons_ok h
    obtain ⟨p, rest, rfl, hfirst, rfl, hg'⟩ := expectPrompt_first ht hp hg hw
    obtain ⟨ps, hps, hlen, rfl⟩ := ih hg' hws
    exact ⟨p :: ps, .cons hfirst hps, by rw [List.length_cons, hlen], rfl⟩

end Waits

/-! ## The default prompt -/

/-- The two sides of the number in the default prompt. -/
def defaultTemplate : Template := ⟨"histprobe ", "> "⟩

theorem ofPrompt_defaultPrompt (least : Nat) :
    Pattern.ofPrompt Config.defaultPrompt least = .ok (.counted defaultTemplate least) := rfl

theorem defaultTemplate_rigid : defaultTemplate.Rigid where
  lead := ⟨104, _, rfl, by decide⟩
  stop := ⟨62, _, rfl, by decide⟩

/-- Waits for the default prompt that all match take the prompts of the stream in their order, none
with too small a number. They give the same in every dialogue with that stream, however its device
cuts it into reads. -/
theorem prompt_waits_of_stream (count : Nat) (last? : Option Nat) (stream : List UInt8) :
    (∀ g ms, Awaits Config.defaultPrompt last? stream g →
        (expectAll (List.replicate count expectPrompt) g).1 = .ok ms →
          ∃ ps, (PromptsInOrder defaultTemplate last? stream ps ∧ ps.length = count ∧
              ms = ps.map (Prompt.toMatch defaultTemplate)) ∧
            (∀ p ∈ ps, leastAfter last? ≤ p.number) ∧
              ps.Pairwise fun p q => leastAfter (some p.number) ≤ q.number) ∧
      ∀ g g' ms ms', Awaits Config.defaultPrompt last? stream g →
        Awaits Config.defaultPrompt last? stream g' →
          (expectAll (List.replicate count expectPrompt) g).1 = .ok ms →
            (expectAll (List.replicate count expectPrompt) g').1 = .ok ms' → ms = ms' := by
  have hfind : ∀ {g ms}, Awaits Config.defaultPrompt last? stream g →
      (expectAll (List.replicate count expectPrompt) g).1 = .ok ms →
        ∃ ps, PromptsInOrder defaultTemplate last? stream ps ∧ ps.length = count ∧
          ms = ps.map (Prompt.toMatch defaultTemplate) := fun hg h =>
    expectAll_prompts defaultTemplate_rigid ofPrompt_defaultPrompt hg h
  refine ⟨fun g ms hg h => ?_, fun g g' ms ms' hg hg' h h' => ?_⟩
  · obtain ⟨ps, hps, hlen, rfl⟩ := hfind hg h
    exact ⟨ps, ⟨hps, hlen, rfl⟩, hps.least_le, hps.pairwise⟩
  · obtain ⟨ps, hps, hlen, rfl⟩ := hfind hg h
    obtain ⟨ps', hps', hlen', rfl⟩ := hfind hg' h'
    rw [hps.eq defaultTemplate_rigid hps' (hlen.trans hlen'.symm)]

/-- The first dialogue reads a number in two parts, and the second one all bytes at once. The first
prompt is painted again before the next one comes. -/
theorem prompt_waits_cut_in_number :
    let bytes := encode "a\nhistprobe 9> ls\nhistprobe 9> b\nhistprobe 12> "
    let ms : List Match :=
      [⟨"a\n", "histprobe 9> "⟩, ⟨"ls\nhistprobe 9> b\n", "histprobe 12> "⟩]
    let cut := ofCues [{ output := .data (bytes.take 44) }, { output := .idle },
      { output := .data (bytes.drop 44) }]
    let whole := ofCues [{ output := .data bytes }]
    let run := fun g => (expectAll (List.replicate 2 expectPrompt) g).1
    (run cut = .ok ms ∧ run whole = .ok ms) ∧
      (∃ ps, PromptsInOrder defaultTemplate none bytes ps ∧
          ms = ps.map (Prompt.toMatch defaultTemplate)) ∧
        ∀ ms', run whole = .ok ms' → ms = ms' := by
  intro bytes ms cut whole run
  have hcut : run cut = .ok ms := expectAll_ok (by decide +kernel)
  have hwhole : run whole = .ok ms := expectAll_ok (by decide +kernel)
  have hg : Awaits Config.defaultPrompt none bytes cut := ⟨rfl, rfl, by decide⟩
  have hg' : Awaits Config.defaultPrompt none bytes whole := ⟨rfl, rfl, by decide⟩
  obtain ⟨hfind, hsame⟩ := prompt_waits_of_stream 2 none bytes
  obtain ⟨ps, ⟨hps, -, hms⟩, -⟩ := hfind cut ms hg hcut
  exact ⟨⟨hcut, hwhole⟩, ⟨ps, hps, hms⟩, fun ms' h => hsame cut whole ms ms' hg hg' hcut h⟩

end Dialogue

end HistoryAudit
