/-
  HistoryAudit.Proofs.Pattern.Filled

  The prompt that a shell shows against the one that is waited for. The shell
  fills its number in at every counter mark (`promptText_of_template`), while the
  pattern has a number at the first mark only and takes the others as they are
  written. So the shown prompt is found, as a whole and with its number, iff there
  is one mark (`shown_prompt_found_iff_one_mark`).
-/
import HistoryAudit.Proofs.Pattern.Swallowed
import HistoryAudit.StandIn.Shell

namespace HistoryAudit.Pattern

open StandIn (fillPrompt promptText)
open Text (FirstAt)
open Text.Utf8 (encode encode_append)

/-! ## The two sides of the first mark -/

/-- The counter mark as characters. -/
def markChars : List Char := Config.counterMark.toList

/-- A prompt is the two sides of its first mark, and the mark between them. -/
theorem Template.eq_of_ofPrompt? {prompt : String} {t : Template}
    (h : Template.ofPrompt? prompt = some t) :
    prompt = t.before ++ Config.counterMark ++ t.after := by
  obtain ⟨i, hi, rfl⟩ := Option.map_eq_some_iff.mp h
  obtain ⟨rest, hrest⟩ := (Text.findFirst?_eq_some_iff.mp hi).here
  have hdrop : prompt.toList.drop (i + Config.counterMark.toList.length) = rest := by
    rw [← List.drop_drop, ← hrest, List.drop_left]
  apply String.toList_injective
  rw [String.toList_append, String.toList_append, String.toList_ofList, String.toList_ofList,
    hdrop, List.append_assoc, hrest, List.take_append_drop]

/-! ## Filling in the number -/

section Fill

variable {number : String} {cs : List Char}

/-- Where no mark begins, a character is kept. -/
theorem fillPrompt_cons {c : Char} (h : ¬markChars <+: c :: cs) :
    fillPrompt number (c :: cs) = c :: fillPrompt number cs := by
  rw [fillPrompt]
  rintro rest rfl rfl
  exact h (List.prefix_append markChars rest)

/-- The first mark is replaced by the number, and what stands before it is kept. -/
theorem fillPrompt_of_firstAt {i : Nat} (h : FirstAt markChars cs i) :
    fillPrompt number cs =
      cs.take i ++ number.toList ++ fillPrompt number (cs.drop (i + markChars.length)) := by
  induction i generalizing cs with
  | zero =>
    obtain ⟨rest, rfl⟩ := h.here
    rfl
  | succ i ih =>
    cases cs with
    | nil => exact absurd h.le_length (Nat.not_succ_le_zero i)
    | cons c cs =>
      have hcs : FirstAt markChars cs i :=
        ⟨h.here, fun j hj => h.first (j + 1) (Nat.succ_lt_succ hj)⟩
      rw [fillPrompt_cons (h.first 0 (Nat.succ_pos i)), ih hcs, Nat.succ_add]
      rfl

/-- Characters without a mark are kept. -/
theorem fillPrompt_of_not_infix (h : ¬markChars <:+: cs) : fillPrompt number cs = cs := by
  induction cs with
  | nil => rfl
  | cons c cs ih =>
    rw [List.infix_cons_iff, not_or] at h
    rw [fillPrompt_cons h.1, ih h.2]

end Fill

section PromptText

variable {prompt : String}

/-- The number is shown at the first mark, and at those behind it. -/
theorem promptText_of_template {t : Template} (h : Template.ofPrompt? prompt = some t) (n : Nat) :
    promptText prompt n = t.before ++ toString n ++ promptText t.after n := by
  obtain ⟨i, hi, rfl⟩ := Option.map_eq_some_iff.mp h
  have hfirst : FirstAt markChars prompt.toList i := Text.findFirst?_eq_some_iff.mp hi
  apply String.toList_injective
  rw [promptText, promptText, fillPrompt_of_firstAt hfirst]
  simp only [String.toList_append, String.toList_ofList]
  rfl

/-- A prompt without a mark is shown as it is written. -/
theorem promptText_of_none (h : Template.ofPrompt? prompt = none) (n : Nat) :
    promptText prompt n = prompt := by
  have hnone : ¬markChars <:+: prompt.toList := by
    rw [← Text.isSome_findFirst?, Option.not_isSome_iff_eq_none]
    exact Option.map_eq_none_iff.mp h
  rw [promptText, fillPrompt_of_not_infix hnone, String.ofList_toList]

end PromptText

/-! ## One mark -/

namespace Template

variable {t : Template} {least n : Nat}

/-- The text of a prompt is found as a whole. -/
theorem find?_rendered (hfits : n < Nat.pow 2 64) (hle : least ≤ n) :
    t.find? least (encode (t.rendered n)) = some ⟨0, (encode (t.rendered n)).length⟩ := by
  rw [← value_numeral n] at hfits hle
  rw [encode_rendered]
  exact (areDigits_numeral n).find?_word hfits hle

/-- The number is read again from the text of a prompt. -/
theorem firstNumber?_rendered (hfits : n < Nat.pow 2 64) :
    t.firstNumber? (encode (t.rendered n)) = some n := by
  rw [← value_numeral n] at hfits
  rw [encode_rendered, (areDigits_numeral n).firstNumber?_word hfits, value_numeral]

end Template

/-! ## Several marks -/

/-- How many braces are opened in a text. -/
def openBraces (s : String) : Nat := (encode s).count 123

theorem openBraces_append (s s' : String) :
    openBraces (s ++ s') = openBraces s + openBraces s' := by
  rw [openBraces, encode_append, List.count_append, openBraces, openBraces]

theorem count_digits {digits : List UInt8} (h : Template.AreDigits digits) :
    digits.count 123 = 0 :=
  List.count_eq_zero.mpr fun hmem => absurd (h.all _ hmem) (by decide)

theorem openBraces_toString (n : Nat) : openBraces (toString n) = 0 :=
  count_digits (Template.areDigits_numeral n)

theorem length_after_lt {prompt : String} {t : Template}
    (h : Template.ofPrompt? prompt = some t) : t.after.length < prompt.length := by
  rw [Template.eq_of_ofPrompt? h, String.length_append, String.length_append]
  have hmark : Config.counterMark.length = 3 := rfl
  omega

/-- Filling in a number opens no brace, and takes away the one of each mark. -/
theorem openBraces_promptText_le (prompt : String) (n : Nat) :
    openBraces (promptText prompt n) ≤ openBraces prompt := by
  induction hlen : prompt.length using Nat.strong_induction_on generalizing prompt with
  | _ len ih =>
    subst hlen
    cases h : Template.ofPrompt? prompt with
    | none => rw [promptText_of_none h]
    | some t =>
      have hafter := ih t.after.length (length_after_lt h) t.after rfl
      have hprompt := congrArg openBraces (Template.eq_of_ofPrompt? h)
      rw [openBraces_append, openBraces_append] at hprompt
      rw [promptText_of_template h, openBraces_append, openBraces_append, openBraces_toString]
      omega

theorem openBraces_promptText_lt {prompt : String} {t : Template}
    (h : Template.ofPrompt? prompt = some t) (n : Nat) :
    openBraces (promptText prompt n) < openBraces prompt := by
  have hafter := openBraces_promptText_le t.after n
  have hprompt := congrArg openBraces (Template.eq_of_ofPrompt? h)
  have hmark : openBraces Config.counterMark = 1 := by decide
  rw [openBraces_append, openBraces_append, hmark] at hprompt
  rw [promptText_of_template h, openBraces_append, openBraces_append, openBraces_toString]
  omega

/-- What is found has all the open braces of the template, so in a text with fewer of them nothing
is found. -/
theorem Template.find?_eq_none_of_openBraces {t : Template} {least : Nat} {s : String}
    (h : openBraces s < openBraces t.before + openBraces t.after) :
    t.find? least (encode s) = none := by
  cases he : t.find? least (encode s) with
  | none => rfl
  | some e =>
    obtain ⟨digits, hp, -, -⟩ := Template.find?_eq_some he
    have hin : t.word digits <:+: encode s :=
      hp.stands.here.isInfix.trans (List.drop_suffix _ _).isInfix
    have hcount : (t.word digits).count 123 ≤ openBraces s := hin.sublist.count_le 123
    rw [Template.word, List.count_append, List.count_append, count_digits hp.stands.areDigits]
      at hcount
    exact absurd (Nat.lt_of_le_of_lt hcount h) (Nat.lt_irrefl _)

/-! ## The shown prompt -/

/-- Of a prompt with one counter mark, the text that a shell shows for a large enough number is found
as a whole, and gives this number. Of a prompt with several marks the shown text is never found: the
number is shown at all of them, and the pattern has the later ones as they are written. -/
theorem shown_prompt_found_iff_one_mark {prompt : String} {t : Template} {least n : Nat}
    {p : Pattern} (ht : Template.ofPrompt? prompt = some t) (hp : ofPrompt prompt least = .ok p)
    (hle : least ≤ n) (hfits : n < Nat.pow 2 64) :
    let shown := promptText prompt n
    (Template.ofPrompt? t.after = none →
        p.find? (encode shown) = some ⟨0, (encode shown).length⟩ ∧ p.number? shown = some n) ∧
      (Template.ofPrompt? t.after ≠ none → p.find? (encode shown) = none) := by
  intro shown
  obtain rfl := eq_counted_of_ofPrompt ht hp
  have hshown : shown = t.before ++ toString n ++ promptText t.after n :=
    promptText_of_template ht n
  constructor
  · -- The text shown is the template with the number put in.
    intro hone
    have hrendered : shown = t.rendered n := by
      rw [hshown, promptText_of_none hone, Template.rendered]
    rw [hrendered]
    exact ⟨Template.find?_rendered hfits hle, Template.firstNumber?_rendered hfits⟩
  · -- A shell has replaced a mark that the template still shows as it is.
    intro hmore
    obtain ⟨t', ht'⟩ := Option.ne_none_iff_exists'.mp hmore
    have hlt := openBraces_promptText_lt ht' n
    refine Template.find?_eq_none_of_openBraces ?_
    rw [hshown, openBraces_append, openBraces_append, openBraces_toString]
    omega

/-- Digits and characters with a meaning in expressions stand next to the mark. -/
theorem shown_prompt_found_between_digits :
    let t : Template := ⟨"1", "1$ "⟩
    Template.ofPrompt? "1\x7bn\x7d1$ " = some t ∧
      ofPrompt "1\x7bn\x7d1$ " 7 = .ok (counted t 7) ∧ 7 ≤ 11 ∧
        promptText "1\x7bn\x7d1$ " 11 = "1111$ " ∧
          (counted t 7).find? (encode "1111$ ") = some ⟨0, 6⟩ ∧
            (counted t 7).number? "1111$ " = some 11 := by
  intro t
  have ht : Template.ofPrompt? "1\x7bn\x7d1$ " = some t := by decide
  have hp : ofPrompt "1\x7bn\x7d1$ " 7 = .ok (counted t 7) := rfl
  have hle : 7 ≤ 11 := by decide
  have hshown : promptText "1\x7bn\x7d1$ " 11 = "1111$ " := by decide +kernel
  have hlen : (encode "1111$ ").length = 6 := by decide
  obtain ⟨hone, -⟩ := shown_prompt_found_iff_one_mark ht hp hle (by decide)
  obtain ⟨hfind, hnumber⟩ := hone (by decide)
  rw [hshown] at hfind hnumber
  rw [hlen] at hfind
  exact ⟨ht, hp, hle, hshown, hfind, hnumber⟩

/-- The shown prompt need not be found: there are two marks. -/
theorem shown_prompt_lost_at_second_mark :
    ¬∀ (prompt : String) (t : Template) (least n : Nat) (p : Pattern),
        Template.ofPrompt? prompt = some t → ofPrompt prompt least = .ok p → least ≤ n →
          n < Nat.pow 2 64 →
            p.find? (encode (promptText prompt n)) =
                some ⟨0, (encode (promptText prompt n)).length⟩ ∧
              p.number? (promptText prompt n) = some n := by
  intro hall
  let t : Template := ⟨"", ":\x7bn\x7d> "⟩
  have hp : ofPrompt "\x7bn\x7d:\x7bn\x7d> " 0 = .ok (counted t 0) := rfl
  obtain ⟨hfind, -⟩ := hall _ t 0 1 _ (by decide) hp (by decide) (by decide)
  have hnone : (counted t 0).find? (encode (promptText "\x7bn\x7d:\x7bn\x7d> " 1)) = none := by
    decide +kernel
  rw [hnone] at hfind
  cases hfind

end HistoryAudit.Pattern
