/-
  HistoryAudit.Proofs.Scenario.Moments

  The run of a scenario, moment by moment: every call that writes, every time the
  output is listened to, and every match leads from one moment to the next. One
  moment has at most one next (`Next.right_unique`), and the moments of the steps
  end where the steps do, with their failure (`reaches_runSteps`).
-/
import HistoryAudit.Proofs.Scenario.Loop
import Mathlib.Data.List.Basic
import Mathlib.Logic.Relation

namespace HistoryAudit

open Text.Utf8 (encode)

/-- The bytes of a step's input: its text, and one line end. -/
def Step.line (step : Step) : List UInt8 := encode step.send ++ [10]

namespace Dialogue

/-! ## Moments -/

/-- Why a run is over. -/
inductive Stop where
  /-- All steps have passed. -/
  | finished
  /-- A call that writes has failed. -/
  | refused (f : Failure)
  /-- What was written was not passed on, or the output that must follow did not come. -/
  | failed (f : Failure)

/-- The failure that ended the run. -/
def Stop.failure? : Stop → Option Failure
  | .finished => none
  | .refused f | .failed f => some f

/-- What is going on; `todo` are the steps that were not begun, with what they wait for. -/
inductive Activity where
  /-- These bytes of a line are still to be written; then the output that must follow is waited
  for, which is the prompt if there is no pattern. -/
  | writing (left : List UInt8) (p? : Option Pattern) (todo : List (Step × Option Pattern))
  /-- Output is waited for, since `started` and until `deadline`. Of a prompt the number is kept. -/
  | waiting (p : Pattern) (isPrompt : Bool) (started deadline : Nat)
    (todo : List (Step × Option Pattern))
  | ended (stop : Stop)

/-- A moment of a run. -/
structure Moment where
  dialogue : Dialogue
  /-- So many waits have matched: first that for the first prompt, and then those of the steps. -/
  matched : Nat
  activity : Activity

/-- The input of the shell up to now. -/
def Moment.input (m : Moment) : List UInt8 := m.dialogue.session.device.input

/-- The dialogue with another state of its device. -/
def withDevice (g : Dialogue) (d : Device) : Dialogue :=
  { g with session := { g.session with device := d } }

/-- The dialogue behind a match. -/
def afterMatch (g : Dialogue) (p : Pattern) (isPrompt : Bool) (m : Match) : Dialogue :=
  if isPrompt then { g with lastNumber? := (p.number? m.matched).or g.lastNumber? } else g

/-- The next step begins, or the run is over. -/
def beginStep (g : Dialogue) (matched : Nat) : List (Step × Option Pattern) → Moment
  | [] => ⟨g, matched, .ended .finished⟩
  | (step, p?) :: todo => ⟨g, matched, .writing step.line p? todo⟩

/-- A wait begins; there is none if the prompt makes no pattern. -/
def beginWait (g : Dialogue) (matched : Nat) (p? : Option Pattern)
    (todo : List (Step × Option Pattern)) : Moment :=
  match p? with
  | some p => ⟨g, matched, .waiting p false g.clock (g.clock + g.timeout) todo⟩
  | none =>
    match Pattern.ofPrompt g.prompt g.nextNumber with
    | .ok p => ⟨g, matched, .waiting p true g.clock (g.clock + g.timeout) todo⟩
    | .error f => ⟨g, matched, .ended (.failed f)⟩

/-- One moment of a run, and the next one. -/
inductive Next : Moment → Moment → Prop where
  /-- A call takes some of the bytes. -/
  | wrote {g : Dialogue} {n k : Nat} {left : List UInt8} {p? : Option Pattern}
      {todo : List (Step × Option Pattern)} {d : Device} (some_left : left ≠ [])
      (call : g.session.device.writeOnce left = (.ok (k + 1), d)) :
      Next ⟨g, n, .writing left p? todo⟩
        ⟨g.withDevice d, n, .writing (left.drop (k + 1)) p? todo⟩
  /-- A call fails. -/
  | refused {g : Dialogue} {n : Nat} {left : List UInt8} {p? : Option Pattern}
      {todo : List (Step × Option Pattern)} {d : Device} {e : SystemError} (some_left : left ≠ [])
      (call : g.session.device.writeOnce left = (.error e, d)) :
      Next ⟨g, n, .writing left p? todo⟩
        ⟨g.withDevice d, n, .ended (.refused
          (.ofSource "failed to write to pty" (Device.WriteError.system e).message))⟩
  /-- A call takes nothing. -/
  | stuck {g : Dialogue} {n : Nat} {left : List UInt8} {p? : Option Pattern}
      {todo : List (Step × Option Pattern)} {d : Device} (some_left : left ≠ [])
      (call : g.session.device.writeOnce left = (.ok 0, d)) :
      Next ⟨g, n, .writing left p? todo⟩
        ⟨g.withDevice d, n, .ended (.refused
          (.ofSource "failed to write to pty" Device.WriteError.stuck.message))⟩
  /-- The line is passed on. -/
  | flushed {g : Dialogue} {n : Nat} {p? : Option Pattern}
      {todo : List (Step × Option Pattern)} {d : Device}
      (call : g.session.device.flush = (none, d)) :
      Next ⟨g, n, .writing [] p? todo⟩ (beginWait (g.withDevice d) n p? todo)
  /-- The line is not passed on. -/
  | unflushed {g : Dialogue} {n : Nat} {p? : Option Pattern}
      {todo : List (Step × Option Pattern)} {d : Device} {e : SystemError}
      (call : g.session.device.flush = (some e, d)) :
      Next ⟨g, n, .writing [] p? todo⟩
        ⟨g.withDevice d, n, .ended (.failed (.ofSource "failed to flush pty writer" e.message))⟩
  /-- The output has come that was waited for. -/
  | matched {g g' : Dialogue} {n started deadline : Nat} {p : Pattern} {isPrompt : Bool}
      {todo : List (Step × Option Pattern)} {t : Taken} (found : g.take? p = some (t, g')) :
      Next ⟨g, n, .waiting p isPrompt started deadline todo⟩
        (beginStep (g'.afterMatch p isPrompt t.toMatch) (n + 1) todo)
  /-- The shell is gone. -/
  | exited {g : Dialogue} {n started deadline : Nat} {p : Pattern} {isPrompt : Bool}
      {todo : List (Step × Option Pattern)} (none_found : g.take? p = none)
      (gone : g.ended = true) :
      Next ⟨g, n, .waiting p isPrompt started deadline todo⟩
        ⟨g, n, .ended (.failed (exitFailure p g.pending))⟩
  /-- The time is up. -/
  | timedOut {g : Dialogue} {n started deadline : Nat} {p : Pattern} {isPrompt : Bool}
      {todo : List (Step × Option Pattern)} (none_found : g.take? p = none)
      (there : g.ended ≠ true) (late : deadline ≤ g.clock) :
      Next ⟨g, n, .waiting p isPrompt started deadline todo⟩
        ⟨g, n, .ended (.failed
          (timeoutFailure p (g.clock - started) g.pending g.session.snapshot))⟩
  /-- Listening fails. -/
  | unheard {g g' : Dialogue} {n started deadline : Nat} {p : Pattern} {isPrompt : Bool}
      {todo : List (Step × Option Pattern)} {f : Failure} (none_found : g.take? p = none)
      (there : g.ended ≠ true) (early : ¬deadline ≤ g.clock)
      (heard : g.listen (min (deadline - g.clock) readSlice) = (.error f, g')) :
      Next ⟨g, n, .waiting p isPrompt started deadline todo⟩ ⟨g', n, .ended (.failed f)⟩
  /-- The output was listened to. -/
  | listened {g g' : Dialogue} {n started deadline : Nat} {p : Pattern} {isPrompt : Bool}
      {todo : List (Step × Option Pattern)} (none_found : g.take? p = none)
      (there : g.ended ≠ true) (early : ¬deadline ≤ g.clock)
      (heard : g.listen (min (deadline - g.clock) readSlice) = (.ok (), g')) :
      Next ⟨g, n, .waiting p isPrompt started deadline todo⟩
        ⟨g', n, .waiting p isPrompt started deadline todo⟩

/-- From one moment to a later one. -/
abbrev Reaches : Moment → Moment → Prop := Relation.ReflTransGen Next

theorem Next.right_unique : Relator.RightUnique Next := by
  intro m m₁ m₂ h₁ h₂
  cases h₁ <;> cases h₂ <;> simp_all

/-- Nothing comes behind the end. -/
theorem eq_of_reaches_ended {m m' : Moment} {stop : Stop} (hover : m.activity = .ended stop)
    (h : Reaches m m') : m' = m := by
  rcases Relation.ReflTransGen.cases_head h with rfl | ⟨m₁, hnext, -⟩
  · rfl
  · cases hnext <;> cases hover

/-- All that is reached from a moment leads to the end of the run. -/
theorem reaches_last {m m' last : Moment} {stop : Stop} (hlast : Reaches m last)
    (hover : last.activity = .ended stop) (h : Reaches m m') : Reaches m' last := by
  rcases Relation.ReflTransGen.total_of_right_unique Next.right_unique h hlast with h | h
  · exact h
  · rw [eq_of_reaches_ended hover h]

/-! ## The run -/

section Run

variable {g g' : Dialogue} {n : Nat} {p? : Option Pattern} {todo : List (Step × Option Pattern)}

/-- What goes on behind all calls that write a line. -/
def afterWrite (p? : Option Pattern) (todo : List (Step × Option Pattern)) :
    Option Device.WriteError → Activity
  | none => .writing [] p? todo
  | some e => .ended (.refused (.ofSource "failed to write to pty" e.message))

theorem reaches_writeFrom (g : Dialogue) (n : Nat) (p? : Option Pattern)
    (todo : List (Step × Option Pattern)) (fuel : Nat) (d : Device) (left : List UInt8)
    (hfuel : left.length ≤ fuel) :
    Reaches ⟨g.withDevice d, n, .writing left p? todo⟩
      ⟨g.withDevice (Device.writeFrom fuel d left).2, n,
        afterWrite p? todo (Device.writeFrom fuel d left).1⟩ := by
  -- Each call takes at least one byte, fails, or is the last.
  induction fuel generalizing d left with
  | zero =>
    rw [List.eq_nil_of_length_eq_zero (Nat.le_zero.mp hfuel)]
    exact .refl
  | succ fuel ih =>
    rw [Device.writeFrom]
    by_cases hleft : left = []
    · rw [if_pos (List.isEmpty_iff.mpr hleft), hleft]
      exact .refl
    · rw [if_neg (mt List.isEmpty_iff.mp hleft)]
      rcases hcall : d.writeOnce left with ⟨e | k, d'⟩
      · exact .single (.refused (g := g.withDevice d) hleft hcall)
      · cases k with
        | zero => exact .single (.stuck (g := g.withDevice d) hleft hcall)
        | succ k =>
          have hnext : Next ⟨g.withDevice d, n, .writing left p? todo⟩
              ⟨g.withDevice d', n, .writing (left.drop (k + 1)) p? todo⟩ :=
            .wrote (g := g.withDevice d) hleft hcall
          have hlen : (left.drop (k + 1)).length ≤ fuel := by
            rw [List.length_drop]
            omega
          exact .head hnext (ih d' _ hlen)

theorem encode_line (step : Step) : encode (step.send ++ "\n") = step.line := by
  rw [encode, String.toList_append, List.flatMap_append]
  rfl

/-- A line that is sent is written, and then what must follow is waited for. -/
theorem reaches_of_sendLine_ok {step : Step} (h : g.sendLine step.send = (.ok (), g')) :
    Reaches ⟨g, n, .writing step.line p? todo⟩ (beginWait g' n p? todo) := by
  have hwrite := reaches_writeFrom g n p? todo _ g.session.device step.line (Nat.le_refl _)
  rw [sendLine, send, encode_line, Session.write, Device.write] at h
  -- All bytes have been taken, and the flush has worked.
  rcases hcalls : Device.writeFrom step.line.length g.session.device step.line with ⟨_ | e, d⟩
  · rw [hcalls] at h hwrite
    simp only at h
    rcases hflush : d.flush with ⟨_ | e, d'⟩
    · rw [hflush] at h
      cases h
      exact .tail hwrite (.flushed (g := g.withDevice d) hflush)
    · rw [hflush] at h
      cases h
  · rw [hcalls] at h
    cases h

/-- A line that cannot be sent ends the run. -/
theorem reaches_of_sendLine_error {step : Step} {f : Failure}
    (h : g.sendLine step.send = (.error f, g')) :
    ∃ stop, Reaches ⟨g, n, .writing step.line p? todo⟩ ⟨g', n, .ended stop⟩ ∧
      stop.failure? = some f := by
  have hwrite := reaches_writeFrom g n p? todo _ g.session.device step.line (Nat.le_refl _)
  rw [sendLine, send, encode_line, Session.write, Device.write] at h
  -- A call that writes has failed, or the flush behind the last one.
  rcases hcalls : Device.writeFrom step.line.length g.session.device step.line with ⟨_ | e, d⟩
  · rw [hcalls] at h hwrite
    simp only at h
    rcases hflush : d.flush with ⟨_ | e, d'⟩
    · rw [hflush] at h
      cases h
    · rw [hflush] at h
      cases h
      exact ⟨_, .tail hwrite (.unflushed (g := g.withDevice d) hflush), rfl⟩
  · rw [hcalls] at h hwrite
    cases h
    exact ⟨_, hwrite, rfl⟩

/-- The moment behind a wait. -/
def afterWait (n : Nat) (p : Pattern) (isPrompt : Bool) (todo : List (Step × Option Pattern)) :
    Except Failure Match × Dialogue → Moment
  | (.ok m, g) => beginStep (g.afterMatch p isPrompt m) (n + 1) todo
  | (.error f, g) => ⟨g, n, .ended (.failed f)⟩

theorem reaches_waitUntil (n : Nat) (todo : List (Step × Option Pattern))
    (started deadline : Nat) (p : Pattern) (isPrompt : Bool) (g : Dialogue) :
    Reaches ⟨g, n, .waiting p isPrompt started deadline todo⟩
      (afterWait n p isPrompt todo
        ((waitUntil started deadline p g).1.bind (Outcome.toMatch p),
          (waitUntil started deadline p g).2)) := by
  fun_induction waitUntil started deadline p g with
  | case1 g t g' found => exact .single (.matched found)
  | case2 g none_found gone => exact .single (.exited none_found gone)
  | case3 g none_found there late => exact .single (.timedOut none_found there late)
  | case4 g none_found there early f g' heard =>
    exact .single (.unheard none_found there early heard)
  | case5 g none_found there early g' heard ih =>
    exact .head (.listened none_found there early heard) ih

theorem reaches_expectMatch (n : Nat) (todo : List (Step × Option Pattern)) (p : Pattern)
    (isPrompt : Bool) (g : Dialogue) :
    Reaches ⟨g, n, .waiting p isPrompt g.clock (g.clock + g.timeout) todo⟩
      (afterWait n p isPrompt todo (g.expectMatch p)) := by
  have hwait := reaches_waitUntil n todo g.clock (g.clock + g.timeout) p isPrompt g
  rw [expectMatch, expect, expectWithin]
  rcases hw : waitUntil g.clock (g.clock + g.timeout) p g with ⟨f | outcome, g'⟩
  · rwa [hw] at hwait
  · rwa [hw] at hwait

/-- What must follow a line: the output of a pattern, or the prompt. -/
def answer (g : Dialogue) : Option Pattern → Except Failure Match × Dialogue
  | some p => g.expectMatch p
  | none => g.expectPrompt

/-- A wait for what must follow leads to the next step or to the end. -/
theorem reaches_answer (n : Nat) (todo : List (Step × Option Pattern)) (g : Dialogue)
    (p? : Option Pattern) :
    Reaches (beginWait g n p? todo)
      (match g.answer p? with
        | (.ok _, g') => beginStep g' (n + 1) todo
        | (.error f, g') => ⟨g', n, .ended (.failed f)⟩) := by
  -- A step waits for its own pattern or for the prompt.
  cases p? with
  | some p =>
    have hwait := reaches_expectMatch n todo p false g
    rw [answer]
    rcases hm : g.expectMatch p with ⟨f | m, g'⟩ <;> rwa [hm] at hwait
  | none =>
    rw [answer, expectPrompt, beginWait]
    cases Pattern.ofPrompt g.prompt g.nextNumber with
    | error f => exact .refl
    | ok p =>
      have hwait := reaches_expectMatch n todo p true g
      simp only
      rcases hm : g.expectMatch p with ⟨f | m, g'⟩ <;> rwa [hm] at hwait

theorem reaches_of_ask_ok {step : Step} {m : Match} (h : g.ask step p? = (.ok m, g')) :
    Reaches ⟨g, n, .writing step.line p? todo⟩ (beginStep g' (n + 1) todo) := by
  rw [ask] at h
  rcases hsend : g.sendLine step.send with ⟨f | _, g₁⟩
  · rw [hsend] at h
    cases h
  · rw [hsend] at h
    have hanswer := reaches_answer n todo g₁ p?
    have heq : g₁.answer p? = (.ok m, g') := by cases p? <;> exact h
    rw [heq] at hanswer
    exact (reaches_of_sendLine_ok hsend).trans hanswer

theorem reaches_of_ask_error (n : Nat) (todo : List (Step × Option Pattern)) {step : Step}
    {f : Failure} (h : g.ask step p? = (.error f, g')) :
    ∃ stop, Reaches ⟨g, n, .writing step.line p? todo⟩ ⟨g', n, .ended stop⟩ ∧
      stop.failure? = some f := by
  rw [ask] at h
  rcases hsend : g.sendLine step.send with ⟨f' | _, g₁⟩
  · rw [hsend] at h
    cases h
    exact reaches_of_sendLine_error hsend
  · rw [hsend] at h
    have hanswer := reaches_answer n todo g₁ p?
    have heq : g₁.answer p? = (.error f, g') := by cases p? <;> exact h
    rw [heq] at hanswer
    exact ⟨_, (reaches_of_sendLine_ok hsend).trans hanswer, rfl⟩

end Run

/-- So many steps have passed. -/
def passedCount (results : List StepResult) : Nat := results.countP (·.status == .passed)

/-- The moments of the steps end where the steps do. Each step that passes is one more match. -/
theorem reaches_runSteps (steps : List (Step × Option Pattern)) (g : Dialogue) (n : Nat) :
    ∃ stop, Reaches (beginStep g n steps)
        ⟨(runSteps steps g).2, n + passedCount (runSteps steps g).1.1, .ended stop⟩ ∧
      stop.failure? = (runSteps steps g).1.2 := by
  induction steps generalizing g n with
  | nil => exact ⟨.finished, .refl, rfl⟩
  | cons entry rest ih =>
    obtain ⟨step, p?⟩ := entry
    rw [runSteps, beginStep]
    rcases hask : g.ask step p? with ⟨f | m, g₁⟩
    · obtain ⟨stop, hreach, hstop⟩ := reaches_of_ask_error n rest hask
      -- None of the steps from here on has passed.
      have hcount : passedCount (⟨step.name, .failed, g₁.clock - g.clock, some f⟩ ::
          rest.map fun entry => ⟨entry.1.name, .skipped, 0, none⟩) = 0 := by
        rw [passedCount, List.countP_eq_zero]
        intro r hr
        rcases List.mem_cons.mp hr with rfl | hr
        · exact (by decide : ¬(StepStatus.failed == .passed) = true)
        · obtain ⟨entry, -, rfl⟩ := List.mem_map.mp hr
          exact (by decide : ¬(StepStatus.skipped == .passed) = true)
      exact ⟨stop, by rw [hcount]; exact hreach, hstop⟩
    · obtain ⟨stop, hreach, hstop⟩ := ih g₁ (n + 1)
      refine ⟨stop, (reaches_of_ask_ok hask).trans ?_, hstop⟩
      -- The step that passed counts as one more match.
      have hcount : n + 1 + passedCount (runSteps rest g₁).1.1 =
          n + passedCount (⟨step.name, .passed, g₁.clock - g.clock, none⟩ ::
            (runSteps rest g₁).1.1) := by
        rw [passedCount, passedCount, List.countP_cons_of_pos rfl]
        omega
      rwa [hcount] at hreach

end Dialogue

end HistoryAudit
