/-
  HistoryAudit.Proofs.Dialogue.Cuts

  Waits for prompts of any template, and where the output is cut into reads. If
  the template tells where the number ends, the stream alone decides the matches
  and the numbers, and no number is accepted before all its digits have arrived
  (`expectPrompts_found`). If nothing or only digits stand behind the number, a
  prompt is accepted while its digits are still coming, and the cuts decide
  (`prompt_waits_cut_free_iff`).
-/
import HistoryAudit.Proofs.Dialogue.PromptWaits

namespace HistoryAudit

namespace Dialogue

open Pattern (Template)
open Pattern.Template (AreDigits Delimited Occurrence PromptAt StandsAt value)
open Text.Utf8 (encode lossy lossy_encode)

/-- Waits for so many prompts, one after the other: the matches, each with the number that is kept
behind it. -/
def expectPrompts : (count : Nat) → Dialogue → Except Failure (List (Match × Option Nat))
  | 0, _ => .ok []
  | count + 1, g =>
    match g.expectPrompt with
    | (.error f, _) => .error f
    | (.ok m, g') =>
      match expectPrompts count g' with
      | .error f => .error f
      | .ok rs => .ok ((m, g'.lastNumber?) :: rs)

/-- Waits that all match are one that matches, and the others behind it. -/
theorem expectPrompts_succ_ok {count : Nat} {g : Dialogue} {rs : List (Match × Option Nat)}
    (h : expectPrompts (count + 1) g = .ok rs) :
    ∃ m g' rs', g.expectPrompt = (.ok m, g') ∧ expectPrompts count g' = .ok rs' ∧
      rs = (m, g'.lastNumber?) :: rs' := by
  rw [expectPrompts] at h
  split at h
  · cases h
  · rename_i m g' hw
    split at h
    · cases h
    · rename_i rs' hws
      cases h
      exact ⟨m, g', rs', hw, hws, rfl⟩

/-- Waits for the prompt that all match give the same, however the output is cut into reads: any two
dialogues with the same output, arrived or to come, have the same matches and numbers. -/
def CutFree (prompt : String) : Prop :=
  ∀ count last? stream g g' rs rs', Awaits prompt last? stream g → Awaits prompt last? stream g' →
    expectPrompts count g = .ok rs → expectPrompts count g' = .ok rs' → rs = rs'

/-! ## Delimited templates -/

/-- Prompts found in a stream, one behind the other: each is what the search finds in all that
follows the prompt before it. All its digits belong to the number: what is still to come does not
make it another one. -/
inductive PromptsFound (t : Template) : Option Nat → List UInt8 → List Prompt → Prop where
  | nil (last? : Option Nat) (stream : List UInt8) : PromptsFound t last? stream []
  | cons {last? : Option Nat} {stream : List UInt8} {p : Prompt} {rest : List UInt8}
      {ps : List Prompt}
      (found : (Pattern.counted t (leastAfter last?)).split? stream =
        some (⟨p.before, t.word p.digits⟩, rest))
      (complete : ∀ digits, t.StandsAt stream p.before.length digits → digits = p.digits)
      (others : PromptsFound t (some p.number) rest ps) : PromptsFound t last? stream (p :: ps)

/-- The stream decides the prompts. -/
theorem PromptsFound.eq {t : Template} {last? : Option Nat} {stream : List UInt8}
    {ps ps' : List Prompt} (h : PromptsFound t last? stream ps)
    (h' : PromptsFound t last? stream ps') (hlen : ps.length = ps'.length) : ps = ps' := by
  -- Each prompt is found in what the one before left, so both lists go step by step.
  induction h generalizing ps' with
  | nil =>
    cases h' with
    | nil => rfl
    | cons => cases hlen
  | @cons last? stream p rest ps found complete others ih =>
    cases h' with
    | nil => cases hlen
    | @cons _ _ p' rest' ps' found' complete' others' =>
      obtain ⟨before, digits⟩ := p
      obtain ⟨before', digits'⟩ := p'
      obtain ⟨htaken, rfl⟩ := Prod.mk.inj (Option.some.inj (found.symm.trans found'))
      obtain ⟨rfl, hword⟩ := Taken.mk.inj htaken
      obtain rfl : digits = digits' := List.append_cancel_left (List.append_cancel_right hword)
      rw [ih others' (Nat.succ.inj hlen)]

section Waits

variable {t : Template} {prompt : String} {last? : Option Nat} {stream : List UInt8}

/-- A wait that matches finds its prompt in the whole stream, and keeps the number. -/
theorem expectPrompt_found {g g' : Dialogue} {m : Match} (hd : t.Delimited)
    (ht : Template.ofPrompt? prompt = some t) (hg : Awaits prompt last? stream g)
    (h : g.expectPrompt = (.ok m, g')) :
    ∃ (p : Prompt) (rest : List UInt8),
      (Pattern.counted t (leastAfter last?)).split? stream =
        some (⟨p.before, t.word p.digits⟩, rest) ∧
      (∀ digits, t.StandsAt stream p.before.length digits → digits = p.digits) ∧
      m = p.toMatch t ∧ Awaits prompt (some p.number) rest g' := by
  obtain ⟨rfl, rfl, rfl⟩ := hg
  obtain ⟨g₁, hm, rfl⟩ := expectPrompt_counted ht h
  obtain ⟨k, hsplit, rfl, hsame⟩ := expectMatch_split (Pattern.counted_settled hd _) hm
  obtain ⟨-, -, digits, hword, hprompt⟩ :=
    (Pattern.counted_finds_prompt t g.nextNumber).split?_iff.mp hsplit
  have hdigits := hprompt.stands.areDigits
  -- The bytes of a prompt are text, so nothing of them is replaced.
  have hmatch : k.toMatch = (Prompt.mk k.before digits).toMatch t := by
    rw [Taken.toMatch, hword, ← hdigits.encode_text, lossy_encode]
    rfl
  obtain ⟨before, matched⟩ := k
  obtain rfl : matched = t.word digits := hword
  rw [nextNumber_eq] at hsplit
  refine ⟨⟨before, digits⟩, g₁.stream, hsplit, fun digits' hs => ?_, hmatch, hsame.prompt, ?_, ?_⟩
  · exact hd.digits_eq hs hprompt.stands
  · rw [hmatch]
    exact congrArg (Option.or · g₁.lastNumber?) (Pattern.counted_number? hprompt)
  · rw [stream, stream]

/-- Waits for prompts that all match find them in the whole stream, and keep their numbers. -/
theorem expectPrompts_found {count : Nat} {g : Dialogue} {rs : List (Match × Option Nat)}
    (hd : t.Delimited) (ht : Template.ofPrompt? prompt = some t)
    (hg : Awaits prompt last? stream g) (h : expectPrompts count g = .ok rs) :
    ∃ ps, PromptsFound t last? stream ps ∧ ps.length = count ∧
      rs = ps.map fun p => (p.toMatch t, some p.number) := by
  induction count generalizing last? stream g rs with
  | zero =>
    cases h
    exact ⟨[], .nil last? stream, rfl, rfl⟩
  | succ count ih =>
    obtain ⟨m, g', rs', hw, hws, rfl⟩ := expectPrompts_succ_ok h
    obtain ⟨p, rest, hfound, hcomplete, rfl, hg'⟩ := expectPrompt_found hd ht hg hw
    obtain ⟨ps, hps, hlen, rfl⟩ := ih hg' hws
    refine ⟨p :: ps, .cons hfound hcomplete hps, by rw [List.length_cons, hlen], ?_⟩
    rw [List.map_cons, hg'.lastNumber]

theorem cutFree_of_delimited (hd : t.Delimited) (ht : Template.ofPrompt? prompt = some t) :
    CutFree prompt := by
  intro count last? stream g g' rs rs' hg hg' h h'
  obtain ⟨ps, hps, hlen, rfl⟩ := expectPrompts_found hd ht hg h
  obtain ⟨ps', hps', hlen', rfl⟩ := expectPrompts_found hd ht hg' h'
  rw [hps.eq hps' (hlen.trans hlen'.symm)]

end Waits

/-! ## Templates that do not tell where the number ends -/

/-- A dialogue in which some output has arrived, and some is still to come. -/
def midway (prompt : String) (arrived later : List UInt8) : Dialogue :=
  { ofCues [{ output := .data later }] with prompt, buffer := arrived }

theorem midway_awaits (prompt : String) (arrived later : List UInt8) :
    Awaits prompt none (arrived ++ later) (midway prompt arrived later) :=
  ⟨rfl, rfl, congrArg (arrived ++ ·) (List.append_nil later)⟩

/-- What is found in the output that has arrived is accepted at once. -/
theorem expectMatch_of_split? {p : Pattern} {g : Dialogue} {k : Taken} {rest : List UInt8}
    (h : p.split? g.buffer = some (k, rest)) :
    g.expectMatch p = (.ok k.toMatch, { g with buffer := rest }) := by
  have htake : g.take? p = some (k, { g with buffer := rest }) :=
    take?_eq_some_iff.mpr ⟨rest, h, rfl⟩
  rw [expectMatch, expect, expectWithin, waitUntil_of_take htake]
  rfl

theorem expectPrompts_one {p : Pattern} {g : Dialogue} {k : Taken} {rest : List UInt8}
    (hp : Pattern.ofPrompt g.prompt g.nextNumber = .ok p)
    (h : p.split? g.buffer = some (k, rest)) :
    expectPrompts 1 g = .ok [(k.toMatch, (p.number? k.toMatch.matched).or g.lastNumber?)] := by
  rw [expectPrompts, expectPrompt, hp]
  simp only [expectMatch_of_split? h]
  rfl

section Undelimited

variable {t : Template}

theorem areDigits_zero : AreDigits [48] :=
  ⟨List.cons_ne_nil _ _, List.forall_mem_singleton.mpr rfl⟩

/-- There are digits that may stand before what is behind the number as well as after it. -/
theorem exists_more_digits (hd : ¬t.Delimited) :
    ∃ u, AreDigits u ∧ encode t.after ++ u = u ++ encode t.after := by
  have hall : ∀ b ∈ encode t.after, Template.isDigit b = true := fun b hb => by
    by_contra hdigit
    exact hd ⟨b, hb, Bool.eq_false_iff.mpr hdigit⟩
  by_cases hnil : encode t.after = []
  · exact ⟨[48], areDigits_zero, by rw [hnil, List.append_nil, List.nil_append]⟩
  · exact ⟨encode t.after, ⟨hnil, hall⟩, rfl⟩

theorem last_byte_notMem_word {digits : List UInt8} (h : AreDigits digits) :
    255 ∉ t.word digits := by
  rw [Template.word, List.mem_append, List.mem_append]
  rintro ((hb | hb) | hb)
  · exact Text.Utf8.last_byte_notMem_encode t.before hb
  · exact absurd (h.all 255 hb) (by decide)
  · exact Text.Utf8.last_byte_notMem_encode t.after hb

/-- A prompt that stands behind a byte which is in no text is not swallowed. -/
theorem not_swallowed_behind_last_byte {least : Nat} {front digits : List UInt8}
    (h : AreDigits digits) (hfits : value digits < Nat.pow 2 64) (hle : least ≤ value digits) :
    ¬t.Swallowed least (front ++ [255] ++ t.word digits) (front.length + 1) := by
  -- An occurrence that swallows the prompt would begin no later than it.
  rintro ⟨j, digits', hover, hplace, hlt⟩
  obtain ⟨hs, -⟩ := Template.standsAt_of_mem_occurrences hover.taken
  rcases Nat.lt_or_eq_of_le hplace with hbefore | rfl
  · -- The occurrence would begin before that byte and end behind it.
    obtain ⟨k, hk⟩ := Nat.exists_eq_add_of_le (Nat.le_of_lt_succ hbefore)
    have hk' : k < (t.word digits').length := by omega
    have hbyte := List.prefix_iff_getElem?.mp hs.here k hk'
    rw [List.getElem?_drop, ← hk, List.append_assoc, List.getElem?_append_right (Nat.le_refl _),
      Nat.sub_self] at hbyte
    have hmem : (255 : UInt8) ∈ t.word digits' := by
      rw [Option.some.inj hbyte]
      exact List.getElem_mem hk'
    exact last_byte_notMem_word hs.areDigits hmem
  · -- It would be the prompt itself, whose number is large enough.
    obtain ⟨k, hk, hfront⟩ := Template.front?_of_mem_occurrencesFrom hover.taken
    have hlen : (front ++ [255]).length = k := by
      rw [List.length_append]
      exact hk.trans (Nat.zero_add k)
    rw [← hlen, List.drop_left, h.front?_word] at hfront
    obtain rfl : digits = digits' := congrArg Occurrence.digits (Option.some.inj hfront)
    have hunfit := hover.unfit
    omega

/-- Output in which the template stands with the digit zero, and, with all that follows, with more
digits. At its end, behind a byte that is in no text, comes a prompt which is found in any case. -/
def lengthened (t : Template) (u : List UInt8) : List UInt8 :=
  t.word (48 :: u) ++ [255] ++ t.word [48]

/-- Its digits can be read behind the template with a zero as well as before what ends it. -/
theorem word_append_eq_lengthened {u : List UInt8}
    (hcomm : encode t.after ++ u = u ++ encode t.after) :
    t.word [48] ++ (u ++ [255] ++ t.word [48]) = lengthened t u := by
  have hfront : t.word [48] ++ u = t.word (48 :: u) := by
    rw [Template.word, Template.word, List.append_assoc, hcomm, List.append_assoc,
      List.append_assoc]
    rfl
  rw [lengthened, ← hfront]
  simp only [List.append_assoc]

/-- A prompt that has just arrived as a whole is what is found. -/
theorem split?_word {least : Nat} {digits : List UInt8} (h : AreDigits digits)
    (hfits : value digits < Nat.pow 2 64) (hle : least ≤ value digits) :
    (Pattern.counted t least).split? (t.word digits) = some (⟨[], t.word digits⟩, []) := by
  have hsplit : (Pattern.counted t least).split? ([] ++ t.word digits ++ []) =
      some (⟨[], t.word digits⟩, []) := by
    refine Pattern.split?_of_find? ?_
    rw [List.nil_append, List.append_nil]
    exact h.find?_word hfits hle
  rwa [List.nil_append, List.append_nil] at hsplit

/-- All of this output has a prompt, and if it is the one at the front, then it has more digits. -/
theorem split?_lengthened {u : List UInt8} (hu : AreDigits u) :
    ∃ before digits rest, AreDigits digits ∧
      (Pattern.counted t 0).split? (lengthened t u) = some (⟨before, t.word digits⟩, rest) ∧
        (before = [] → 1 < digits.length) := by
  have hfits : value [48] < Nat.pow 2 64 := by decide
  -- The prompt behind the last byte is never swallowed, so one is found.
  have hlast : t.PromptAt 0 (lengthened t u) ((t.word (48 :: u)).length + 1) [48] := by
    refine ⟨⟨areDigits_zero, ?_⟩, hfits, Nat.zero_le _⟩
    rw [lengthened, ← List.length_singleton (a := (255 : UInt8)), ← List.length_append,
      List.drop_left]
  have hsome : t.find? 0 (lengthened t u) ≠ none := fun hnone =>
    not_swallowed_behind_last_byte areDigits_zero hfits (Nat.zero_le _) (hlast.swallowed hnone)
  obtain ⟨e, he⟩ := Option.ne_none_iff_exists'.mp hsome
  obtain ⟨digits, hp, hlen, hmem⟩ := Template.find?_eq_some he
  have hword : ((lengthened t u).drop e.start).take e.length = t.word digits := by
    rw [hlen, hp.bytes]
  refine ⟨(lengthened t u).take e.start, digits, ((lengthened t u).drop e.start).drop e.length,
    hp.stands.areDigits, ?_, fun hbefore => ?_⟩
  · rw [Pattern.split?, Pattern.find?, he, Option.map_some, hword]
  · -- At the front the template stands with more digits, and as many as possible are taken.
    have hstart : e.start = 0 := by
      rcases List.take_eq_nil_iff.mp hbefore with hstart | hnil
      · exact hstart
      · have hend := hp.stands.le_length
        rw [hnil, List.length_nil] at hend
        omega
    have hdigits : AreDigits (48 :: u) :=
      ⟨List.cons_ne_nil _ _, List.forall_mem_cons.mpr ⟨by decide, hu.all⟩⟩
    have hstands : t.StandsAt (lengthened t u) 0 (48 :: u) := by
      refine ⟨hdigits, ?_⟩
      rw [List.drop_zero, lengthened, List.append_assoc]
      exact List.prefix_append _ _
    obtain ⟨k, hk, hfront⟩ := Template.front?_of_mem_occurrencesFrom hmem
    obtain rfl : k = 0 := by omega
    rw [List.drop_zero] at hfront
    have hmost := (Template.front?_eq_some_iff.mp hfront).2 _ hstands
    have hpos := List.length_pos_iff.mpr hu.ne_nil
    rw [List.length_cons] at hmost
    exact Nat.lt_of_lt_of_le (Nat.succ_lt_succ hpos) hmost

/-- If the template does not tell where the number ends, then a prompt is accepted from the first
part of this output that is another one with all of it. -/
theorem not_cutFree {prompt : String} (hd : ¬t.Delimited)
    (hp : Pattern.ofPrompt prompt 0 = .ok (.counted t 0)) : ¬CutFree prompt := by
  intro hall
  obtain ⟨u, hu, hcomm⟩ := exists_more_digits hd
  have hfirst : (Pattern.counted t 0).split? (t.word [48]) = some (⟨[], t.word [48]⟩, []) :=
    split?_word areDigits_zero (by decide) (Nat.zero_le _)
  obtain ⟨before, digits, rest, hdigits, hwhole, hmore⟩ := split?_lengthened (t := t) hu
  have hg : Awaits prompt none (lengthened t u)
      (midway prompt (t.word [48]) (u ++ [255] ++ t.word [48])) :=
    word_append_eq_lengthened hcomm ▸ midway_awaits prompt _ _
  have hg' : Awaits prompt none (lengthened t u) (midway prompt (lengthened t u) []) := by
    have hawaits := midway_awaits prompt (lengthened t u) []
    rwa [List.append_nil] at hawaits
  -- Cut behind the first part and read at once, the results would be the same.
  have hsame := hall 1 none _ _ _ _ _ hg hg' (expectPrompts_one hp hfirst)
    (expectPrompts_one hp hwhole)
  obtain ⟨hmatch, -⟩ := Prod.mk.inj (List.cons.inj hsame).1
  obtain ⟨hbefore, hmatched⟩ := Match.mk.inj hmatch
  have hnil : before = [] := Text.Utf8.eq_nil_of_lossy hbefore.symm
  rw [← areDigits_zero.encode_text, ← hdigits.encode_text, lossy_encode, lossy_encode] at hmatched
  have hword : t.word [48] = t.word digits := by
    rw [← areDigits_zero.encode_text, ← hdigits.encode_text, hmatched]
  obtain rfl : [48] = digits := List.append_cancel_left (List.append_cancel_right hword)
  exact absurd (hmore hnil) (Nat.lt_irrefl 1)

end Undelimited

/-- For a template that is accepted, waits for the prompt do not depend on how the output is cut
into reads iff it tells where the number ends. Then they find the prompts in the whole stream and
keep their numbers, and no number is accepted before all its digits have arrived. -/
theorem prompt_waits_cut_free_iff {prompt : String} {t : Template}
    (ht : Template.ofPrompt? prompt = some t) (hp : ∃ p, Pattern.ofPrompt prompt 0 = .ok p) :
    (CutFree prompt ↔ t.Delimited) ∧
      (t.Delimited → ∀ count last? stream g rs, Awaits prompt last? stream g →
        expectPrompts count g = .ok rs →
          ∃ ps, PromptsFound t last? stream ps ∧ ps.length = count ∧
            rs = ps.map fun p => (p.toMatch t, some p.number)) := by
  obtain ⟨p, hp⟩ := hp
  obtain rfl := Pattern.eq_counted_of_ofPrompt ht hp
  have hiff : CutFree prompt ↔ t.Delimited := by
    refine ⟨fun hall => ?_, fun hd => cutFree_of_delimited hd ht⟩
    by_contra hd
    exact not_cutFree hd hp hall
  exact ⟨hiff, fun hd count last? stream g rs hg h => expectPrompts_found hd ht hg h⟩

/-- Digits stand on both sides of the mark. The first dialogue reads the second number in two parts,
and the second dialogue all bytes at once. -/
theorem prompt_waits_cut_beside_digits :
    let t : Template := ⟨"1", "5> "⟩
    let bytes := encode "115> ls\n1125> "
    let rs := [(⟨"", "115> "⟩, some 1), (⟨"ls\n", "1125> "⟩, some 12)]
    let cut : Dialogue := { ofCues [{ output := .data (bytes.take 10) }, { output := .idle },
      { output := .data (bytes.drop 10) }] with prompt := "1\x7bn\x7d5> " }
    let whole : Dialogue := { ofCues [{ output := .data bytes }] with prompt := "1\x7bn\x7d5> " }
    (Template.ofPrompt? "1\x7bn\x7d5> " = some t ∧
        Pattern.ofPrompt "1\x7bn\x7d5> " 0 = .ok (.counted t 0) ∧ t.Delimited) ∧
      (expectPrompts 2 cut = .ok rs ∧ expectPrompts 2 whole = .ok rs) ∧
        CutFree "1\x7bn\x7d5> " ∧
          ∃ ps, PromptsFound t none bytes ps ∧
            rs = ps.map fun p => (p.toMatch t, some p.number) := by
  intro t bytes rs cut whole
  have ht : Template.ofPrompt? "1\x7bn\x7d5> " = some t := by decide
  have hp : Pattern.ofPrompt "1\x7bn\x7d5> " 0 = .ok (.counted t 0) := rfl
  have hd : t.Delimited := ⟨62, by decide, by decide⟩
  have hcut : expectPrompts 2 cut = .ok rs := ok_of_toOption (by decide +kernel)
  have hwhole : expectPrompts 2 whole = .ok rs := ok_of_toOption (by decide +kernel)
  have hg : Awaits "1\x7bn\x7d5> " none bytes cut := ⟨rfl, rfl, by decide⟩
  obtain ⟨hiff, hfound⟩ := prompt_waits_cut_free_iff ht ⟨_, hp⟩
  obtain ⟨ps, hps, -, hrs⟩ := hfound hd 2 none bytes cut rs hg hcut
  exact ⟨⟨ht, hp, hd⟩, ⟨hcut, hwhole⟩, hiff.mpr hd, ps, hps, hrs⟩

/-- Waits for the prompt may depend on the cuts: with nothing behind the number, its first digit is
accepted before the second one has arrived. -/
theorem prompt_accepted_before_last_digit :
    ¬∀ (prompt : String) (t : Template) (n : Nat) (g g' : Dialogue)
        (rs rs' : List (Match × Option Nat)),
        Template.ofPrompt? prompt = some t → n < Nat.pow 2 64 →
          Awaits prompt none (encode (t.rendered n)) g →
            Awaits prompt none (encode (t.rendered n)) g' →
              expectPrompts 1 g = .ok rs → expectPrompts 1 g' = .ok rs' → rs = rs' := by
  intro hall
  let cut : Dialogue := { ofCues [{ output := .data (encode "hp 1") }, { output := .idle },
    { output := .data (encode "2") }] with prompt := "hp \x7bn\x7d" }
  let whole : Dialogue :=
    { ofCues [{ output := .data (encode "hp 12") }] with prompt := "hp \x7bn\x7d" }
  have hcut : expectPrompts 1 cut = .ok [(⟨"", "hp 1"⟩, some 1)] :=
    ok_of_toOption (by decide +kernel)
  have hwhole : expectPrompts 1 whole = .ok [(⟨"", "hp 12"⟩, some 12)] :=
    ok_of_toOption (by decide +kernel)
  have hsame := hall "hp \x7bn\x7d" ⟨"hp ", ""⟩ 12 cut whole _ _ (by decide) (by decide)
    ⟨rfl, rfl, by decide +kernel⟩ ⟨rfl, rfl, by decide +kernel⟩ hcut hwhole
  exact absurd hsame (by decide)

end Dialogue

end HistoryAudit
