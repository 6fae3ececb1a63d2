/-
  HistoryAudit.Proofs.Dialogue.Repaints

  The numbers of the prompts that a dialogue accepts, whatever else is done in it
  and however that ends. Only a wait for the prompt that matches changes the
  number which the next prompt has to exceed (`Operation.kept_or_accepted`), so
  the accepted numbers increase (`accepted_numbers_increase`). The largest number
  of 64 bits has no greater one and is accepted again.
-/
import HistoryAudit.Proofs.Dialogue.Kept
import HistoryAudit.Proofs.Dialogue.PromptWaits
import HistoryAudit.Proofs.Pattern.Reread
import Mathlib.Data.List.Nodup

namespace HistoryAudit

namespace Dialogue

open Pattern (Template)
open Pattern.Template (AreDigits value)
open Text.Utf8 (encode)

/-! ## What keeps the number of the last prompt -/

theorem SamePrompt.refl (g : Dialogue) : SamePrompt g g := ⟨rfl, rfl⟩

/-- Listening and taking a match keep the number, and so does every wait, however it ends. -/
theorem kept_samePrompt (g₀ : Dialogue) : Kept (SamePrompt g₀) where
  listen {g} timeout h := by
    refine h.trans ?_
    unfold listen
    simp only
    split <;> exact ⟨rfl, rfl⟩
  take {g g' p t} htake h := by
    obtain ⟨rest, -, rfl⟩ := take?_eq_some_iff.mp htake
    exact h.trans ⟨rfl, rfl⟩

/-! ## Waits for the prompt -/

/-- The match is a prompt with this number. -/
def IsPrompt (t : Template) (m : Match) (n : Nat) : Prop :=
  ∃ digits, AreDigits digits ∧ m.matched = t.text digits ∧ value digits = n

/-- A match has one number. -/
theorem IsPrompt.eq {t : Template} {m : Match} {n n' : Nat} (h : IsPrompt t m n)
    (h' : IsPrompt t m n') : n = n' := by
  obtain ⟨digits, hd, hm, rfl⟩ := h
  obtain ⟨digits', hd', hm', rfl⟩ := h'
  have hword : t.word digits = t.word digits' := by
    rw [← hd.encode_text, ← hd'.encode_text, ← hm, ← hm']
  have hdigits : encode t.before ++ digits = encode t.before ++ digits' :=
    List.append_cancel_right hword
  rw [List.append_cancel_left hdigits]

/-- A wait for the prompt that fails keeps the number. -/
theorem expectPrompt_error {g g' : Dialogue} {f : Failure} (h : g.expectPrompt = (.error f, g')) :
    SamePrompt g g' := by
  unfold expectPrompt at h
  split at h
  · cases h
    exact .refl g
  · rename_i p hp
    have hwait := (kept_samePrompt g).expectMatch p (.refl g)
    split at h
    · cases h
    · rename_i f' g₁ hm
      rw [hm] at hwait
      cases h
      exact hwait

/-- A wait for the prompt that matches has found a number that is large enough, and keeps it. -/
theorem expectPrompt_accepts {t : Template} {g g' : Dialogue} {m : Match}
    (ht : Template.ofPrompt? g.prompt = some t) (h : g.expectPrompt = (.ok m, g')) :
    ∃ n, IsPrompt t m n ∧ leastAfter g.lastNumber? ≤ n ∧ n ≤ largestNumber ∧
      g'.lastNumber? = some n ∧ g'.prompt = g.prompt := by
  obtain ⟨g₁, hm, rfl⟩ := expectPrompt_counted ht h
  obtain ⟨k, htook, rfl⟩ := expectMatch_took hm
  obtain ⟨arrived, rest, later, -, hsplit, -⟩ := htook.split
  obtain ⟨digits, hprompt, htext, hnumber⟩ := Pattern.counted_split hsplit
  have hleast : leastAfter g.lastNumber? ≤ value digits := by
    rw [← nextNumber_eq]
    exact hprompt.least_le
  have hfits : value digits ≤ largestNumber := Nat.le_pred_of_lt hprompt.fits
  refine ⟨value digits, ⟨digits, hprompt.stands.areDigits, htext, rfl⟩, hleast, hfits, ?_,
    htook.samePrompt.prompt⟩
  simp only [hnumber, Option.some_or]

/-! ## Operations -/

/-- What may be done in a dialogue. -/
inductive Operation where
  | send (text : String)
  | sendLine (text : String)
  | pause (duration : Nat)
  /-- A wait for which a missing match is no failure. -/
  | expect (p : Pattern)
  | expectWithin (p : Pattern) (timeout : Nat)
  | expectMatch (p : Pattern)
  | expectLiteral (text : String)
  | expectRegex (source : String)
  | expectPrompt

/-- Does an operation. The first component is the match of a wait for the prompt, if it was one that
matched; whatever else comes of the operation is put aside. -/
def Operation.perform (g : Dialogue) : Operation → Option Match × Dialogue
  | .send text => (none, (g.send text).2)
  | .sendLine text => (none, (g.sendLine text).2)
  | .pause duration => (none, g.pause duration)
  | .expect p => (none, (g.expect p).2)
  | .expectWithin p timeout => (none, (g.expectWithin p timeout).2)
  | .expectMatch p => (none, (g.expectMatch p).2)
  | .expectLiteral text => (none, (g.expectLiteral text).2)
  | .expectRegex source => (none, (g.expectRegex source).2)
  | .expectPrompt => (g.expectPrompt.1.toOption, g.expectPrompt.2)

/-- The matches of the waits for the prompt, the operations being done one after the other. -/
def acceptedPrompts : List Operation → Dialogue → List Match
  | [], _ => []
  | op :: ops, g => (op.perform g).1.toList ++ acceptedPrompts ops (op.perform g).2

/-- An operation keeps the number of the last prompt, or it is a wait that accepts a prompt: its
number is large enough, and the next one has to exceed it. -/
theorem Operation.kept_or_accepted {t : Template} {g : Dialogue} (op : Operation)
    (ht : Template.ofPrompt? g.prompt = some t) :
    ((op.perform g).1 = none ∧ SamePrompt g (op.perform g).2) ∨
      ∃ m n, (op.perform g).1 = some m ∧ IsPrompt t m n ∧ leastAfter g.lastNumber? ≤ n ∧
        n ≤ largestNumber ∧ (op.perform g).2.lastNumber? = some n ∧
          (op.perform g).2.prompt = g.prompt := by
  -- Only the wait for a prompt looks at its number.
  cases op with
  | send text => exact .inl ⟨rfl, rfl, rfl⟩
  | sendLine text => exact .inl ⟨rfl, rfl, rfl⟩
  | pause duration => exact .inl ⟨rfl, rfl, rfl⟩
  | expect p => exact .inl ⟨rfl, (kept_samePrompt g).waitUntil g.clock _ p (.refl g)⟩
  | expectWithin p timeout => exact .inl ⟨rfl, (kept_samePrompt g).waitUntil g.clock _ p (.refl g)⟩
  | expectMatch p => exact .inl ⟨rfl, (kept_samePrompt g).expectMatch p (.refl g)⟩
  | expectLiteral text => exact .inl ⟨rfl, (kept_samePrompt g).expectMatch _ (.refl g)⟩
  | expectRegex source => exact .inl ⟨rfl, (kept_samePrompt g).expectRegex source (.refl g)⟩
  | expectPrompt =>
    simp only [Operation.perform]
    rcases hp : g.expectPrompt with ⟨f | m, g'⟩
    · exact .inl ⟨rfl, expectPrompt_error hp⟩
    · obtain ⟨n, hn⟩ := expectPrompt_accepts ht hp
      exact .inr ⟨m, n, rfl, hn⟩

/-! ## The accepted numbers -/

/-- Numbers that come one after the other: the second is greater, unless both are the largest one. -/
def Follows (n n' : Nat) : Prop := n < n' ∨ n = largestNumber ∧ n' = largestNumber

theorem follows_of_leastAfter {n n' : Nat} (hn : n ≤ largestNumber)
    (h : leastAfter (some n) ≤ n') (hn' : n' ≤ largestNumber) : Follows n n' := by
  rw [leastAfter] at h
  unfold Follows
  omega

/-- If every number is followed so by the later ones, then they increase iff the largest one occurs
at most once. -/
theorem pairwise_lt_iff_count_largest {ns : List Nat} (h : ns.Pairwise Follows) :
    ns.Pairwise (· < ·) ↔ ns.count largestNumber ≤ 1 := by
  constructor
  · intro hlt
    exact List.nodup_iff_count_le_one.mp (hlt.imp Nat.ne_of_lt) largestNumber
  · -- By the first number: one that follows it is greater, or both are the largest.
    induction h with
    | nil => exact fun _ => .nil
    | @cons n ns hn hns ih =>
      intro hcount
      have htail : ns.count largestNumber ≤ 1 := List.count_le_count_cons.trans hcount
      refine .cons (fun n' hmem => ?_) (ih htail)
      rcases hn n' hmem with hlt | ⟨rfl, rfl⟩
      · exact hlt
      · -- The largest number would be there twice.
        have hpos := List.count_pos_iff.mpr hmem
        rw [List.count_cons_self] at hcount
        omega

theorem acceptedPrompts_numbers {t : Template} (ops : List Operation) {g : Dialogue}
    (ht : Template.ofPrompt? g.prompt = some t) :
    ∃ ns, List.Forall₂ (IsPrompt t) (acceptedPrompts ops g) ns ∧
      (∀ n ∈ ns, leastAfter g.lastNumber? ≤ n ∧ n ≤ largestNumber) ∧ ns.Pairwise Follows := by
  induction ops generalizing g with
  | nil => exact ⟨[], .nil, fun n hn => absurd hn List.not_mem_nil, .nil⟩
  | cons op ops ih =>
    rw [acceptedPrompts]
    rcases op.kept_or_accepted ht with ⟨hnone, hsame⟩ | ⟨m, n, hm, hprompt, hle, hfits, hlast, hp⟩
    · rw [hnone, Option.toList_none, List.nil_append, ← hsame.lastNumber]
      exact ih (hsame.prompt ▸ ht)
    · obtain ⟨ns, hns, hall, hpairs⟩ := ih (hp ▸ ht)
      rw [hlast] at hall
      rw [hm, Option.toList_some, List.singleton_append]
      refine ⟨n :: ns, .cons hprompt hns, ?_, .cons (fun n' hn' => ?_) hpairs⟩
      · intro n' hn'
        rcases List.mem_cons.mp hn' with rfl | hn'
        · exact ⟨hle, hfits⟩
        · obtain ⟨hnext, hfits'⟩ := hall n' hn'
          -- The number fits 64 bits, so the least one that follows is not below it.
          have hself : n ≤ leastAfter (some n) := by
            rw [leastAfter]
            omega
          exact ⟨hle.trans (hself.trans hnext), hfits'⟩
      · exact follows_of_leastAfter hfits (hall n' hn').1 (hall n' hn').2

/-- Whatever is done in a dialogue, the accepted prompts have numbers each of which is followed by
greater ones, or is the largest one and accepted again. So they increase strictly iff the largest
number is accepted at most once. -/
theorem accepted_numbers_increase {t : Template} (ops : List Operation) (g : Dialogue)
    (ht : Template.ofPrompt? g.prompt = some t) :
    ∃ ns, List.Forall₂ (IsPrompt t) (acceptedPrompts ops g) ns ∧
      (∀ n ∈ ns, leastAfter g.lastNumber? ≤ n ∧ n ≤ largestNumber) ∧ ns.Pairwise Follows ∧
        (ns.Pairwise (· < ·) ↔ ns.count largestNumber ≤ 1) := by
  obtain ⟨ns, hns, hall, hpairs⟩ := acceptedPrompts_numbers ops ht
  exact ⟨ns, hns, hall, hpairs, pairwise_lt_iff_count_largest hpairs⟩

theorem template_defaultPrompt :
    Template.ofPrompt? Config.defaultPrompt = some defaultTemplate := by decide

/-- A prompt is painted again while a text is waited for that does not come, and again before the
next prompt; that wait and one for an expression that is not valid fail in between. -/
theorem accepted_numbers_between_failures :
    let g := ofCues [{ output := .data (encode "histprobe 2> ") },
      { output := .data (encode "ls\nhistprobe 2> "), lines := 1 },
      { output := .data (encode "\nhistprobe 2> \nhistprobe 5> "), due := 200 }]
    let ops : List Operation := [.expectPrompt, .sendLine "ls", .expectLiteral "absent",
      .expectRegex "(", .expectPrompt, .pause 100, .expectPrompt]
    Template.ofPrompt? g.prompt = some defaultTemplate ∧
      acceptedPrompts ops g =
        [⟨"", "histprobe 2> "⟩, ⟨"ls\nhistprobe 2> \nhistprobe 2> \n", "histprobe 5> "⟩] ∧
      ∃ ns, List.Forall₂ (IsPrompt defaultTemplate) (acceptedPrompts ops g) ns ∧
        ns.Pairwise Follows := by
  intro g ops
  have ht : Template.ofPrompt? g.prompt = some defaultTemplate := template_defaultPrompt
  obtain ⟨ns, hns, -, hpairs, -⟩ := accepted_numbers_increase ops g ht
  exact ⟨ht, by decide +kernel, ns, hns, hpairs⟩

/-- The accepted numbers need not increase: the largest one is accepted again. -/
theorem largest_number_accepted_again :
    ¬∀ (t : Template) (ops : List Operation) (g : Dialogue),
        Template.ofPrompt? g.prompt = some t →
          ∀ ns, List.Forall₂ (IsPrompt t) (acceptedPrompts ops g) ns → ns.Pairwise (· < ·) := by
  intro hall
  let g := ofCues [{ output := .data (encode "histprobe 18446744073709551615> ") },
    { output := .data (encode "\nhistprobe 18446744073709551615> ") }]
  let ops : List Operation := [.expectPrompt, .expectPrompt]
  have hprompts : acceptedPrompts ops g =
      [⟨"", "histprobe 18446744073709551615> "⟩, ⟨"\n", "histprobe 18446744073709551615> "⟩] := by
    decide +kernel
  have hnumber : ∀ before,
      IsPrompt defaultTemplate ⟨before, "histprobe 18446744073709551615> "⟩ largestNumber :=
    fun _ => ⟨encode "18446744073709551615", ⟨by decide +kernel, by decide +kernel⟩,
      (by decide +kernel : "histprobe 18446744073709551615> " = _), by decide +kernel⟩
  have hns : List.Forall₂ (IsPrompt defaultTemplate) (acceptedPrompts ops g)
      [largestNumber, largestNumber] := by
    rw [hprompts]
    exact .cons (hnumber "") (.cons (hnumber "\n") .nil)
  -- The two accepted numbers would have to increase.
  have hlt := List.pairwise_pair.mp (hall defaultTemplate ops g template_defaultPrompt _ hns)
  exact Nat.lt_irrefl _ hlt

end Dialogue

end HistoryAudit
