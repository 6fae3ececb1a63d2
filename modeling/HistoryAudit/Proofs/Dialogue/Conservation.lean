/-
  HistoryAudit.Proofs.Dialogue.Conservation

  No byte of the output is lost, doubled or moved. Whatever is done in a dialogue,
  the bytes that matches took and the buffer behind them are the bytes that the
  reader gave, in their order, and the terminal was fed with the same bytes
  (`output_conserved`). One operation keeps these accounts (`perform_accounted`),
  and accounts of operations one after the other add up (`Accounted.trans`). Only
  a wait in which a call of the reader fails loses what that wait had got.
-/
import HistoryAudit.Proofs.Dialogue.Repaints
import HistoryAudit.Proofs.Dialogue.Waits

namespace HistoryAudit

namespace Session

open Device (Calls)

/-- Writing makes no calls of the reader, and shows nothing on the screen. -/
theorem write_made (s : Session) (bytes : List UInt8) :
    Calls s.device s.around [] (s.write bytes).2.device (s.write bytes).2.around ∧
      (s.write bytes).2.terminal = s.terminal := by
  have hwrite : Calls s.device s.around [] (s.device.write bytes).2 s.around := .write bytes .none
  unfold Session.write
  split
  · rename_i e d heq
    rw [heq] at hwrite
    exact ⟨hwrite, rfl⟩
  · -- The bytes were taken; the flush makes no calls either.
    rename_i d heq
    rw [heq] at hwrite
    have hflush := hwrite.flush
    split
    · rename_i e d' heq'
      rw [heq'] at hflush
      exact ⟨hflush, rfl⟩
    · rename_i d' heq'
      rw [heq'] at hflush
      exact ⟨hflush, rfl⟩

end Session

namespace Dialogue

open Device (Call Calls given)

/-! ## Operations and what they take -/

/-- The dialogue after operations, done one after the other. -/
def after (g : Dialogue) (ops : List Operation) : Dialogue :=
  ops.foldl (fun g op => (op.perform g).2) g

namespace Operation

/-- What the operation waits for, and how long at most; nothing if it is no wait, or if its pattern
is refused. -/
def wait? (g : Dialogue) : Operation → Option (Pattern × Nat)
  | .send _ | .sendLine _ | .pause _ => none
  | .expect p | .expectMatch p => some (p, g.timeout)
  | .expectWithin p timeout => some (p, timeout)
  | .expectLiteral text => some (.literal text, g.timeout)
  | .expectRegex source => (Pattern.ofRegex source).toOption.map (·, g.timeout)
  | .expectPrompt => (Pattern.ofPrompt g.prompt g.nextNumber).toOption.map (·, g.timeout)

/-- The match that the operation returns, if it returns one. -/
def match? (g : Dialogue) : Operation → Option Match
  | .send _ | .sendLine _ | .pause _ => none
  | .expect p => (g.expect p).1.toOption.bind Outcome.match?
  | .expectWithin p timeout => (g.expectWithin p timeout).1.toOption.bind Outcome.match?
  | .expectMatch p => (g.expectMatch p).1.toOption
  | .expectLiteral text => (g.expectLiteral text).1.toOption
  | .expectRegex source => (g.expectRegex source).1.toOption
  | .expectPrompt => g.expectPrompt.1.toOption

/-- The same match in bytes. -/
def taken? (g : Dialogue) (op : Operation) : Option Taken :=
  match op.wait? g with
  | none => none
  | some (p, timeout) => takenUntil (g.clock + timeout) p g

/-- Is it a wait that ends with the failure of a read? -/
def breaks (g : Dialogue) (op : Operation) : Bool :=
  match op.wait? g with
  | none => false
  | some (p, timeout) => !(g.expectWithin p timeout).1.isOk

end Operation

/-- The matches that operations return, done one after the other. -/
def matchesOf (g : Dialogue) : List Operation → List Match
  | [] => []
  | op :: ops => (op.match? g).toList ++ matchesOf (op.perform g).2 ops

/-- The same matches in bytes. -/
def takenBy (g : Dialogue) : List Operation → List Taken
  | [] => []
  | op :: ops => (op.taken? g).toList ++ takenBy (op.perform g).2 ops

/-- Does a wait among the operations end with the failure of a read? -/
def someBreaks (g : Dialogue) : List Operation → Bool
  | [] => false
  | op :: ops => op.breaks g || someBreaks (op.perform g).2 ops

/-- All bytes that a match takes: those before it, and its own. -/
def Taken.bytes (t : Taken) : List UInt8 := t.before ++ t.matched

theorem toOption_expectMatch (g : Dialogue) (p : Pattern) :
    (g.expectMatch p).1.toOption = (g.expect p).1.toOption.bind Outcome.match? := by
  unfold expectMatch
  split
  · rename_i outcome g' heq
    rw [heq]
    cases outcome <;> rfl
  · rename_i f g' heq
    rw [heq]
    rfl

theorem expectMatch_dialogue (g : Dialogue) (p : Pattern) :
    (g.expectMatch p).2 = (g.expect p).2 := by
  unfold expectMatch
  split
  · rename_i outcome g' heq
    rw [heq]
  · rename_i f g' heq
    rw [heq]

namespace Operation

variable {g : Dialogue} {op : Operation}

/-- An operation that waits does what the wait does, and keeps the number of a prompt at most. -/
theorem perform_of_wait {p : Pattern} {timeout : Nat} (h : op.wait? g = some (p, timeout)) :
    op.match? g = (g.expectWithin p timeout).1.toOption.bind Outcome.match? ∧
      ∃ n?, (op.perform g).2 = { (g.expectWithin p timeout).2 with lastNumber? := n? } := by
  cases op with
  | send | sendLine | pause => cases h
  | expect | expectWithin =>
    cases h
    exact ⟨rfl, _, rfl⟩
  | expectMatch | expectLiteral =>
    cases h
    exact ⟨toOption_expectMatch g _, _, expectMatch_dialogue g _⟩
  | expectRegex source =>
    obtain ⟨p', hp, hpair⟩ := Option.map_eq_some_iff.mp h
    cases hpair
    simp only [match?, perform, Dialogue.expectRegex, ok_of_toOption hp]
    exact ⟨toOption_expectMatch g p, _, expectMatch_dialogue g p⟩
  | expectPrompt =>
    obtain ⟨p', hp, hpair⟩ := Option.map_eq_some_iff.mp h
    cases hpair
    have hmatch := toOption_expectMatch g p
    have hdialogue := expectMatch_dialogue g p
    rw [Dialogue.expect] at hmatch hdialogue
    -- The number is noted only if a prompt was found, and nothing else changes.
    simp only [match?, perform, Dialogue.expectPrompt, ok_of_toOption hp, ← hmatch, ← hdialogue]
    split
    · rename_i m g' heq
      rw [heq]
      exact ⟨rfl, _, rfl⟩
    · rename_i f g' heq
      rw [heq]
      exact ⟨rfl, _, rfl⟩

/-- An operation that does not wait returns no match and leaves the buffer alone. -/
theorem perform_of_no_wait (h : op.wait? g = none) :
    op.match? g = none ∧ (op.perform g).2.buffer = g.buffer ∧
      (op.perform g).2.ended = g.ended ∧
      (op.perform g).2.session.terminal = g.session.terminal ∧
      Calls g.session.device g.session.around [] (op.perform g).2.session.device
        (op.perform g).2.session.around := by
  cases op with
  | send text =>
    obtain ⟨hmade, hterminal⟩ := g.session.write_made (Text.Utf8.encode text)
    exact ⟨rfl, rfl, rfl, hterminal, hmade⟩
  | sendLine text =>
    obtain ⟨hmade, hterminal⟩ := g.session.write_made (Text.Utf8.encode (text ++ "\n"))
    exact ⟨rfl, rfl, rfl, hterminal, hmade⟩
  | pause duration => exact ⟨rfl, rfl, rfl, rfl, .pause duration .none⟩
  | expect | expectWithin | expectMatch | expectLiteral => cases h
  | expectRegex source =>
    cases hp : Pattern.ofRegex source with
    | ok p =>
      simp only [wait?, hp] at h
      cases h
    | error f =>
      -- An expression that is not one is refused before the wait.
      have hnone : match? g (.expectRegex source) = none := by
        rw [match?, Dialogue.expectRegex, hp]
        rfl
      have hsame : (perform g (.expectRegex source)).2 = g := by
        simp only [perform, Dialogue.expectRegex, hp]
      rw [hsame]
      exact ⟨hnone, rfl, rfl, rfl, .none⟩
  | expectPrompt =>
    cases hp : Pattern.ofPrompt g.prompt g.nextNumber with
    | ok p =>
      simp only [wait?, hp] at h
      cases h
    | error f =>
      -- So is the expression of a prompt.
      have hnone : match? g .expectPrompt = none := by
        rw [match?, Dialogue.expectPrompt, hp]
        rfl
      have hsame : (perform g .expectPrompt).2 = g := by
        simp only [perform, Dialogue.expectPrompt, hp]
      rw [hsame]
      exact ⟨hnone, rfl, rfl, rfl, .none⟩

theorem taken?_of_no_wait (h : op.wait? g = none) : op.taken? g = none := by
  rw [taken?, h]

theorem taken?_of_wait {p : Pattern} {timeout : Nat} (h : op.wait? g = some (p, timeout)) :
    op.taken? g = takenUntil (g.clock + timeout) p g := by
  rw [taken?, h]

/-- The match that is returned is the text of what is taken. -/
theorem match?_eq (g : Dialogue) (op : Operation) :
    op.match? g = (op.taken? g).map Taken.toMatch := by
  cases hwait : op.wait? g with
  | none =>
    rw [(perform_of_no_wait hwait).1, taken?_of_no_wait hwait]
    rfl
  | some wait =>
    obtain ⟨p, timeout⟩ := wait
    rw [(perform_of_wait hwait).1, taken?_of_wait hwait]
    rcases hends : g.expectWithin p timeout with ⟨f | outcome, g'⟩
    · rw [(waitUntil_failed hends).1]
      rfl
    · exact (waitUntil_waited hends).1

end Operation

/-! ## Accounts -/

/-- The account of a part of a dialogue: the calls of the reader that were made, and, unless one of
them has failed, what became of the bytes that they gave. -/
structure Accounted (g : Dialogue) (taken : List Taken) (broken : Bool) (calls : List Call)
    (g' : Dialogue) : Prop where
  made : Calls g.session.device g.session.around calls g'.session.device g'.session.around
  failed_iff : (∃ c ∈ calls, c.Failed) ↔ broken = true
  bytes : broken = false → taken.flatMap Taken.bytes ++ g'.buffer = g.buffer ++ given calls
  terminal : broken = false → g'.session.terminal = g.session.terminal.feed (given calls)

namespace Accounted

variable {g g' g'' : Dialogue} {taken taken' : List Taken} {broken broken' : Bool}
  {calls calls' : List Call}

theorem trans (h : Accounted g taken broken calls g')
    (h' : Accounted g' taken' broken' calls' g'') :
    Accounted g (taken ++ taken') (broken || broken') (calls ++ calls') g'' where
  made := h.made.trans h'.made
  failed_iff := by
    rw [Bool.or_eq_true, ← h.failed_iff, ← h'.failed_iff]
    simp only [List.mem_append, or_and_right, exists_or]
  -- The bytes of the two parts join at the buffer between them.
  bytes hsound := by
    obtain ⟨hfirst, hsecond⟩ := Bool.or_eq_false_iff.mp hsound
    calc (taken ++ taken').flatMap Taken.bytes ++ g''.buffer
        = taken.flatMap Taken.bytes ++ (taken'.flatMap Taken.bytes ++ g''.buffer) := by
          rw [List.flatMap_append, List.append_assoc]
      _ = taken.flatMap Taken.bytes ++ g'.buffer ++ given calls' := by
          rw [h'.bytes hsecond, List.append_assoc]
      _ = g.buffer ++ given (calls ++ calls') := by
          rw [h.bytes hfirst, List.append_assoc, Device.given_append]
  terminal hsound := by
    obtain ⟨hfirst, hsecond⟩ := Bool.or_eq_false_iff.mp hsound
    rw [h'.terminal hsecond, h.terminal hfirst, Device.given_append, Screen.Terminal.feed_append]

/-- A wait that has not failed. -/
theorem of_waited {p : Pattern} {taken? : Option Taken} (h : Waited p g taken? calls g') :
    Accounted g taken?.toList false calls g' where
  made := h.made
  failed_iff := iff_of_false (fun ⟨c, hc, hfailed⟩ => h.sound c hc hfailed) nofun
  bytes _ := by
    cases taken? with
    | none => exact (h.left rfl).1
    | some t =>
      rw [Option.toList_some, List.flatMap_singleton]
      exact Pattern.append_of_split? (h.taken t rfl)
  terminal _ := h.terminal

end Accounted

/-! ## Runs -/

theorem perform_accounted (g : Dialogue) (op : Operation) :
    ∃ calls, Accounted g (op.taken? g).toList (op.breaks g) calls (op.perform g).2 := by
  cases hwait : op.wait? g with
  | none =>
    obtain ⟨-, hbuffer, -, hterminal, hmade⟩ := Operation.perform_of_no_wait hwait
    have hsound : op.breaks g = false := by rw [Operation.breaks, hwait]
    rw [Operation.taken?_of_no_wait hwait, hsound]
    exact ⟨[], hmade, iff_of_false (fun ⟨c, hc, _⟩ => List.not_mem_nil hc) nofun,
      fun _ => hbuffer.trans (List.append_nil _).symm,
      fun _ => hterminal.trans (Screen.Terminal.feed_nil _).symm⟩
  | some wait =>
    obtain ⟨p, timeout⟩ := wait
    obtain ⟨-, n?, hperform⟩ := Operation.perform_of_wait hwait
    have hbreaks : op.breaks g = !(g.expectWithin p timeout).1.isOk := by
      rw [Operation.breaks, hwait]
    rw [Operation.taken?_of_wait hwait, hbreaks, hperform]
    -- A wait that fails is the only way to break the account.
    rcases hends : g.expectWithin p timeout with ⟨f | outcome, g'⟩
    · obtain ⟨-, calls, hmade, hfailed⟩ := waitUntil_failed hends
      exact ⟨calls, hmade, iff_of_true hfailed rfl, nofun, nofun⟩
    · obtain ⟨-, calls, hwaited⟩ := waitUntil_waited hends
      have haccount := Accounted.of_waited hwaited
      exact ⟨calls, haccount.made, haccount.failed_iff, haccount.bytes, haccount.terminal⟩

theorem after_accounted (g : Dialogue) (ops : List Operation) :
    ∃ calls, Accounted g (takenBy g ops) (someBreaks g ops) calls (g.after ops) := by
  induction ops generalizing g with
  | nil =>
    exact ⟨[], .none, iff_of_false (fun ⟨c, hc, _⟩ => List.not_mem_nil hc) nofun,
      fun _ => (List.append_nil _).symm, fun _ => (Screen.Terminal.feed_nil _).symm⟩
  | cons op ops ih =>
    obtain ⟨calls, hop⟩ := perform_accounted g op
    obtain ⟨calls', hops⟩ := ih (op.perform g).2
    exact ⟨calls ++ calls', hop.trans hops⟩

theorem matchesOf_eq (g : Dialogue) (ops : List Operation) :
    matchesOf g ops = (takenBy g ops).map Taken.toMatch := by
  induction ops generalizing g with
  | nil => rfl
  | cons op ops ih =>
    rw [matchesOf, takenBy, List.map_append, ih, Operation.match?_eq]
    cases op.taken? g <;> rfl

/-- Whatever is done in a dialogue: the bytes that its matches took, one after the other, and the
buffer behind them are what was in the buffer and what the reader gave since, and the terminal was
fed with all that it gave, unless a call of the reader has failed. An operation that returns no
match takes nothing. -/
theorem output_conserved (g : Dialogue) (ops : List Operation) :
    matchesOf g ops = (takenBy g ops).map Taken.toMatch ∧
      (∃ calls, Accounted g (takenBy g ops) (someBreaks g ops) calls (g.after ops)) ∧
        ∀ op : Operation, op.match? g = none →
          ∃ calls, Accounted g [] (op.breaks g) calls (op.perform g).2 := by
  refine ⟨matchesOf_eq g ops, after_accounted g ops, fun op hnone => ?_⟩
  have htaken : op.taken? g = none := by
    rw [Operation.match?_eq] at hnone
    exact Option.map_eq_none_iff.mp hnone
  obtain ⟨calls, haccount⟩ := perform_accounted g op
  rw [htaken] at haccount
  exact ⟨calls, haccount⟩

/-- A character is cut in two, one match is empty, the last bytes come with the end of the device,
and a match is found after it. One wait is over too early and one comes too late. -/
theorem output_conserved_to_the_end :
    let g := ofCues [{ output := .data [97, 0xc3] }, { output := .idle },
      { output := .data [0xa9, 98, 0xff] }, { output := .interrupted },
      { output := .data [99, 100, 99], due := 60 }, { output := .hungUp }]
    let ops : List Operation := [.expectLiteral "é", .expectLiteral "", .expectRegex "(",
      .expectWithin (.literal "c") 20, .sendLine "x", .expectLiteral "c", .expectLiteral "e",
      .expectLiteral "c"]
    let g' := g.after ops
    someBreaks g ops = false ∧ g.buffer = [] ∧ matchesOf g ops =
        [⟨"a", "é"⟩, ⟨"", ""⟩, ⟨"b�", "c"⟩, ⟨"d", "c"⟩] ∧ g'.buffer = [] ∧
      ∃ calls, Calls g.session.device g.session.around calls g'.session.device g'.session.around ∧
        (takenBy g ops).flatMap Taken.bytes = given calls ∧
          g'.session.terminal = (Screen.Terminal.blank {}).feed (given calls) := by
  intro g ops g'
  have hsound : someBreaks g ops = false := by decide +kernel
  have hbuffer : g'.buffer = [] := by decide +kernel
  obtain ⟨-, ⟨calls, haccount⟩, -⟩ := output_conserved g ops
  have hbytes := haccount.bytes hsound
  rw [show (g.after ops).buffer = [] from hbuffer, List.append_nil] at hbytes
  exact ⟨hsound, rfl, by decide +kernel, hbuffer, calls, haccount.made, hbytes,
    haccount.terminal hsound⟩

end Dialogue

end HistoryAudit
