/-
  HistoryAudit.Proofs.Scenario.InFlight

  What a run writes, at every moment of it: the lines of the steps in their
  order, and no byte of a line before the output that must follow the line before
  has come (`Orderly.next`, `orderly_of_reaches`). A run that no write has ended
  has written the whole lines of the steps that passed or failed.
-/
import HistoryAudit.Proofs.Scenario.Course
import HistoryAudit.Proofs.Scenario.Moments
import HistoryAudit.Proofs.Session.Kept
import HistoryAudit.Proofs.Text.Utf8

namespace HistoryAudit

open Text.Utf8 (encode)

/-! ## Lines -/

/-- The input of steps, line by line. -/
def Step.lines (steps : List Step) : List UInt8 := steps.flatMap Step.line

theorem Step.lines_append (steps steps' : List Step) :
    lines (steps ++ steps') = lines steps ++ lines steps' := List.flatMap_append

theorem Step.lines_prefix {steps steps' : List Step} (h : steps <+: steps') :
    lines steps <+: lines steps' := by
  obtain ⟨rest, rfl⟩ := h
  rw [lines_append]
  exact List.prefix_append _ _

namespace Dialogue

/-- These bytes are lines of the steps in their order, the last one perhaps cut off. A byte of a step
is among them only if all waits before that step have matched: the one for the first prompt, and
those of the steps before. -/
structure InTurn (steps : List Step) (matched : Nat) (sent : List UInt8) : Prop where
  lines : sent <+: Step.lines steps
  waits : ∀ i, (Step.lines (steps.take i)).length < sent.length → i < matched

/-- Whole lines and a part of what comes next are in turn, if they go `k` steps further than whole
lines do, and so many waits have matched. -/
theorem InTurn.of_append {done todo : List Step} {part : List UInt8} {n k : Nat}
    (hpart : part <+: Step.lines (todo.take k)) (hn : done.length + k ≤ n) :
    InTurn (done ++ todo) n (Step.lines done ++ part) := by
  have hreach : (done ++ todo).take (done.length + k) = done ++ todo.take k := by
    rw [List.take_append, List.take_of_length_le (Nat.le_add_right _ k), Nat.add_sub_cancel_left]
  have hsent : Step.lines done ++ part <+: Step.lines ((done ++ todo).take (done.length + k)) := by
    rw [hreach, Step.lines_append]
    exact (List.prefix_append_right_inj _).mpr hpart
  refine ⟨hsent.trans (Step.lines_prefix (List.take_prefix _ _)), fun i hi => ?_⟩
  -- The lines of more than `n` steps would hold all that was sent.
  by_contra hlt
  have hle : done.length + k ≤ i := hn.trans (Nat.le_of_not_lt hlt)
  have hlines := Step.lines_prefix (List.take_prefix_take_left (l := done ++ todo) hle)
  have hlen := (hsent.trans hlines).length_le
  omega

/-! ## Every moment -/

/-- The steps of entries. -/
abbrev stepsOf (entries : List (Step × Option Pattern)) : List Step := entries.map (·.1)

/-- What was written behind the input `base`, at a moment of a run of these steps. -/
inductive Orderly (base : List UInt8) (all : List (Step × Option Pattern)) : Moment → Prop where
  /-- The lines of some steps are written, and a part of the next line. -/
  | writing {g : Dialogue} {done todo : List (Step × Option Pattern)} {step : Step}
      {p? : Option Pattern} {part left : List UInt8} (steps : all = done ++ (step, p?) :: todo)
      (line : part ++ left = step.line)
      (input : g.session.device.input = base ++ (Step.lines (stepsOf done) ++ part)) :
      Orderly base all ⟨g, done.length + 1, .writing left p? todo⟩
  /-- The lines of some steps are written. -/
  | waiting {g : Dialogue} {done todo : List (Step × Option Pattern)} {p : Pattern}
      {isPrompt : Bool} {started deadline : Nat} (steps : all = done ++ todo)
      (input : g.session.device.input = base ++ Step.lines (stepsOf done)) :
      Orderly base all ⟨g, done.length, .waiting p isPrompt started deadline todo⟩
  /-- All is over. If no write has failed, as many whole lines are written as waits have matched,
  since the wait for the first prompt has no line. -/
  | ended {g : Dialogue} {n : Nat} {stop : Stop} {sent : List UInt8}
      (input : g.session.device.input = base ++ sent) (inTurn : InTurn (stepsOf all) n sent)
      (whole : (∀ f, stop ≠ .refused f) → sent = Step.lines ((stepsOf all).take n)) :
      Orderly base all ⟨g, n, .ended stop⟩

/-- Listening adds nothing to the input. -/
theorem listen_input {g g' : Dialogue} {timeout : Nat} {r : Except Failure Unit}
    (h : g.listen timeout = (r, g')) : g'.session.device.input = g.session.device.input := by
  have hread := g.session.read_input timeout
  unfold listen at h
  simp only at h
  split at h <;> cases h <;> exact hread

section Orderly

variable {base : List UInt8} {all done todo : List (Step × Option Pattern)} {g : Dialogue}

/-- Whole lines are in turn. -/
theorem inTurn_whole (steps : all = done ++ todo) {n : Nat} (hn : done.length ≤ n) :
    InTurn (stepsOf all) n (Step.lines (stepsOf done)) := by
  have hturn : InTurn (stepsOf done ++ stepsOf todo) n (Step.lines (stepsOf done) ++ []) :=
    .of_append (k := 0) List.nil_prefix (by rwa [List.length_map])
  rwa [List.append_nil, ← List.map_append, ← steps] at hturn

/-- Whole lines and a part of the next one are in turn. -/
theorem inTurn_part {step : Step} {p? : Option Pattern} {part left : List UInt8}
    (steps : all = done ++ (step, p?) :: todo) (line : part ++ left = step.line) :
    InTurn (stepsOf all) (done.length + 1) (Step.lines (stepsOf done) ++ part) := by
  have hnext : Step.lines ((stepsOf ((step, p?) :: todo)).take 1) = step.line := List.append_nil _
  have hpart : part <+: Step.lines ((stepsOf ((step, p?) :: todo)).take 1) := by
    rw [hnext, ← line]
    exact List.prefix_append _ _
  rw [steps, stepsOf, List.map_append]
  exact .of_append hpart (by rw [List.length_map])

/-- At an orderly moment, what was written is in turn. -/
theorem Orderly.inTurn {m : Moment} (h : Orderly base all m) :
    ∃ sent, m.input = base ++ sent ∧ InTurn (stepsOf all) m.matched sent := by
  cases h with
  | writing steps line input => exact ⟨_, input, inTurn_part steps line⟩
  | waiting steps input => exact ⟨_, input, inTurn_whole steps (Nat.le_refl _)⟩
  | ended input inTurn whole => exact ⟨_, input, inTurn⟩

/-- A run that is over with whole lines. -/
theorem Orderly.ended_whole {stop : Stop} (steps : all = done ++ todo)
    (input : g.session.device.input = base ++ Step.lines (stepsOf done)) {n : Nat}
    (hn : (stepsOf all).take n = stepsOf done) (hle : done.length ≤ n) :
    Orderly base all ⟨g, n, .ended stop⟩ :=
  .ended input (inTurn_whole steps hle) fun _ => by rw [hn]

theorem take_length_stepsOf (steps : all = done ++ todo) :
    (stepsOf all).take done.length = stepsOf done := by
  rw [steps, stepsOf, List.map_append, List.take_left' (List.length_map _)]

/-- A step begins behind the wait of the step before. -/
theorem orderly_beginStep (steps : all = done ++ todo)
    (input : g.session.device.input = base ++ Step.lines (stepsOf done)) :
    Orderly base all (beginStep g (done.length + 1) todo) := by
  cases todo with
  | nil =>
    rw [List.append_nil] at steps
    subst steps
    refine .ended_whole (List.append_nil all).symm input ?_ (Nat.le_succ _)
    exact List.take_of_length_le (by rw [List.length_map]; exact Nat.le_succ _)
  | cons entry todo =>
    refine .writing steps (List.nil_append entry.1.line) ?_
    rwa [List.append_nil]

/-- A wait begins behind the line of its step. -/
theorem orderly_beginWait (steps : all = done ++ todo)
    (input : g.session.device.input = base ++ Step.lines (stepsOf done)) (p? : Option Pattern) :
    Orderly base all (beginWait g done.length p? todo) := by
  unfold beginWait
  split
  · exact .waiting steps input
  · split
    · exact .waiting steps input
    · exact .ended_whole steps input (take_length_stepsOf steps) (Nat.le_refl _)

/-- Whatever happens at a moment, the next one is orderly again. -/
theorem Orderly.next {m m' : Moment} (h : Orderly base all m) (hnext : Next m m') :
    Orderly base all m' := by
  cases h with
  | ended input inTurn whole => cases hnext
  | @writing g done todo step p? part left steps line input =>
    have hdone : all = (done ++ [(step, p?)]) ++ todo := by rw [steps, List.append_cons]
    have hlength : (done ++ [(step, p?)]).length = done.length + 1 := List.length_append
    have hlines : Step.lines (stepsOf (done ++ [(step, p?)])) =
        Step.lines (stepsOf done) ++ step.line := by
      rw [stepsOf, List.map_append, Step.lines_append]
      exact congrArg _ (List.append_nil _)
    have hturn := inTurn_part steps line
    cases hnext with
    | @wrote _ _ k _ _ _ d some_left call =>
      -- What the call took goes from what is left to the part that is written.
      have hline : (part ++ left.take (k + 1)) ++ left.drop (k + 1) = step.line := by
        rw [List.append_assoc, List.take_append_drop, line]
      have hinput : d.input =
          base ++ (Step.lines (stepsOf done) ++ (part ++ left.take (k + 1))) := by
        rw [Device.writeOnce_ok call, input]
        simp only [List.append_assoc]
      exact .writing steps hline hinput
    | refused some_left call =>
      exact .ended ((Device.writeOnce_error call).trans input) hturn fun h => absurd rfl (h _)
    | stuck some_left call =>
      refine .ended ((Device.writeOnce_ok call).trans ?_) hturn fun h => absurd rfl (h _)
      rw [List.take_zero, List.append_nil, input]
    | @flushed _ _ _ _ d call =>
      have hflush := g.session.device.flush_input
      rw [call] at hflush
      rw [List.append_nil] at line
      rw [← hlength]
      exact orderly_beginWait hdone (hflush.trans (by rw [input, hlines, line])) p?
    | @unflushed _ _ _ _ d e call =>
      have hflush := g.session.device.flush_input
      rw [call] at hflush
      rw [List.append_nil] at line
      rw [← hlength]
      exact .ended_whole hdone (hflush.trans (by rw [input, hlines, line]))
        (take_length_stepsOf hdone) (Nat.le_refl _)
  | @waiting g done todo p isPrompt started deadline steps input =>
    cases hnext with
    | matched found =>
      obtain ⟨rest, -, rfl⟩ := take?_eq_some_iff.mp found
      refine orderly_beginStep steps ?_
      unfold afterMatch
      split <;> exact input
    | exited none_found gone =>
      exact .ended_whole steps input (take_length_stepsOf steps) (Nat.le_refl _)
    | timedOut none_found there late =>
      exact .ended_whole steps input (take_length_stepsOf steps) (Nat.le_refl _)
    | unheard none_found there early heard =>
      exact .ended_whole steps ((listen_input heard).trans input) (take_length_stepsOf steps)
        (Nat.le_refl _)
    | listened none_found there early heard =>
      exact .waiting steps ((listen_input heard).trans input)

/-- Every moment of a run is orderly. -/
theorem orderly_of_reaches {m m' : Moment} (h : Orderly base all m) (hreach : Reaches m m') :
    Orderly base all m' := by
  induction hreach with
  | refl => exact h
  | tail _ hnext ih => exact ih.next hnext

end Orderly

/-! ## The end of a run -/

/-- The steps whose results are not skipped. -/
def begunSteps (steps : List Step) (results : List StepResult) : List Step :=
  ((steps.zip results).filter fun x => x.2.status != .skipped).map (·.1)

theorem begunSteps_of_skipped {steps : List Step} {results : List StepResult}
    (h : ∀ r ∈ results, r.Skipped) : begunSteps steps results = [] := by
  rw [begunSteps, List.filter_eq_nil_iff.mpr, List.map_nil]
  rintro ⟨step, r⟩ hmem
  rw [(h r (List.of_mem_zip hmem).2).status]
  decide

theorem begunSteps_cons {step : Step} {steps : List Step} {r : StepResult}
    {results : List StepResult} (h : r.status ≠ .skipped) :
    begunSteps (step :: steps) (r :: results) = step :: begunSteps steps results := by
  have hkept : (r.status != .skipped) = true := bne_iff_ne.mpr h
  simp only [begunSteps, List.zip_cons_cons, List.filter_cons, hkept, if_true, List.map_cons]

/-- The steps that were begun are those that passed, and the next one if there is one. -/
theorem begunSteps_of_course {steps : List Step} {results : List StepResult} {f? : Option Failure}
    (h : Course results f?) (hlen : results.length = steps.length) :
    begunSteps steps results = steps.take (passedCount results + 1) := by
  -- Along the course: a step that passed was begun, and so was the one that failed.
  induction h generalizing steps with
  | done =>
    rw [List.eq_nil_of_length_eq_zero hlen.symm]
    rfl
  | @passed r rs f? hr others ih =>
    obtain ⟨step, steps, rfl⟩ := List.exists_cons_of_length_eq_add_one hlen.symm
    have hcount : passedCount (r :: rs) = passedCount rs + 1 :=
      List.countP_cons_of_pos (by rw [hr.status]; decide)
    rw [begunSteps_cons (by rw [hr.status]; decide), hcount, List.take_succ_cons,
      ih (Nat.succ.inj hlen)]
  | @failed r rs f hr others =>
    obtain ⟨step, steps, rfl⟩ := List.exists_cons_of_length_eq_add_one hlen.symm
    have hcount : passedCount (r :: rs) = 0 := by
      rw [passedCount, List.countP_eq_zero]
      intro x hx
      rcases List.mem_cons.mp hx with rfl | hx
      · rw [hr.status]; decide
      · rw [(others x hx).status]; decide
    rw [begunSteps_cons (by rw [hr.status]; decide), hcount, begunSteps_of_skipped others]
    rfl

theorem length_begunSteps {steps : List Step} {results : List StepResult}
    (hlen : results.length = steps.length) :
    (begunSteps steps results).length = results.countP (·.status != .skipped) := by
  have hresults : (steps.zip results).map (·.2) = results := List.map_snd_zip (Nat.le_of_eq hlen)
  rw [begunSteps, List.length_map, ← List.countP_eq_length_filter]
  conv_rhs => rw [← hresults, List.countP_map]
  rfl

/-- The moments of a run: all that the wait for the first prompt leads to. -/
def MomentOf (g : Dialogue) (s : Scenario) (m : Moment) : Prop :=
  ∃ entries, Scenario.withPatterns g.prompt s.steps = .ok entries ∧
    Reaches (beginWait g 0 none entries) m

/-- A run ends with this report, in this moment and for this reason. -/
structure EndsIn (g : Dialogue) (s : Scenario) (r : ScenarioReport) (last : Moment)
    (stop : Stop) : Prop where
  run : g.runScenario s = (.ok r, last.dialogue)
  moment : MomentOf g s last
  ended : last.activity = .ended stop
  failure : stop.failure? = r.failure?
  results : r.steps.length = s.steps.length
  /-- The waits that matched are the one for the first prompt and those of steps that passed. -/
  matched : last.matched = passedCount r.steps + 1 ∨ last.matched = 0 ∧ ∀ x ∈ r.steps, x.Skipped
  /-- A step was begun if the wait before it has matched. -/
  begun : begunSteps s.steps r.steps = s.steps.take last.matched

/-- The moments of a run end where the run does. -/
theorem endsIn_runScenario {g : Dialogue} {s : Scenario}
    {entries : List (Step × Option Pattern)}
    (h : Scenario.withPatterns g.prompt s.steps = .ok entries) :
    ∃ r last stop, EndsIn g s r last stop := by
  have hfirst := reaches_answer 0 entries g none
  rw [answer] at hfirst
  rcases hprompt : g.expectPrompt with ⟨f | m, g₁⟩
  · rw [hprompt] at hfirst
    -- Without the first prompt no step is begun.
    have hskipped : ∀ x ∈ s.steps.map fun step =>
        (⟨step.name, .skipped, 0, none⟩ : StepResult), x.Skipped := skipped_of_mem
    refine ⟨⟨s.name, _, some f⟩, _, .failed f, ?_, ⟨entries, h, hfirst⟩, rfl, rfl,
      List.length_map _, .inr ⟨rfl, hskipped⟩, begunSteps_of_skipped hskipped⟩
    rw [runScenario_eq, h, hprompt]
  · rw [hprompt] at hfirst
    obtain ⟨stop, hreach, hstop⟩ := reaches_runSteps entries g₁ 1
    obtain ⟨hcourse, hnames⟩ := runSteps_course entries g₁
    -- Every step has a result, so the results count the steps.
    have hlen : (runSteps entries g₁).1.1.length = s.steps.length := by
      have hresults := congrArg List.length hnames
      rw [List.length_map, List.length_map] at hresults
      rw [hresults, ← withPatterns_steps h, List.length_map]
    refine ⟨⟨s.name, (runSteps entries g₁).1.1, (runSteps entries g₁).1.2⟩, _, stop, ?_,
      ⟨entries, h, hfirst.trans hreach⟩, rfl, hstop, hlen, .inl (Nat.add_comm 1 _), ?_⟩
    · rw [runScenario_eq, h, hprompt]
    · rw [begunSteps_of_course hcourse hlen, Nat.add_comm]

end Dialogue

/-! ## Checked scenarios -/

namespace Scenario

/-- Regular expressions that were checked are patterns. -/
theorem withPatterns_of_checkPatterns (prompt : String) {steps : List Step}
    (h : checkPatterns steps = .ok ()) : ∃ entries, withPatterns prompt steps = .ok entries := by
  induction steps with
  | nil => exact ⟨[], rfl⟩
  | cons step rest ih =>
    -- The check and the patterns ask the same of a step.
    have hstep : ∃ p?, patternOf prompt step = .ok p? ∧ checkPatterns rest = .ok () := by
      rw [checkPatterns] at h
      unfold patternOf
      cases hexpect : step.expect with
      | prompt =>
        rw [hexpect] at h
        exact ⟨none, rfl, h⟩
      | literal text =>
        rw [hexpect] at h
        exact ⟨some (.literal text), rfl, h⟩
      | regex source =>
        rw [hexpect] at h
        simp only at h
        rcases hp : Pattern.ofRegex source with f | p
        · rw [hp] at h
          cases h
        · rw [hp] at h
          have hpattern : (Pattern.ofRegex source).map some = .ok (some p) := by
            rw [hp]
            rfl
          exact ⟨some p, hpattern, h⟩
    obtain ⟨p?, hp, hrest⟩ := hstep
    obtain ⟨entries, hentries⟩ := ih hrest
    exact ⟨(step, p?) :: entries, by rw [withPatterns, hp, hentries]⟩

/-- The input of each step of a checked scenario is one line, and what the steps wait for can be
made into patterns. -/
theorem of_check {s : Scenario} (h : s.check = .ok ()) (prompt : String) :
    (∀ step ∈ s.steps, '\n' ∉ step.send.toList) ∧
      ∃ entries, withPatterns prompt s.steps = .ok entries := by
  unfold check at h
  split at h
  · cases h
  · split at h
    · cases h
    · rename_i hlong
      refine ⟨fun step hstep hmem => ?_, withPatterns_of_checkPatterns prompt h⟩
      have hshort := List.find?_eq_none.mp hlong step hstep
      exact hshort (List.any_eq_true.mpr ⟨'\n', hmem, by decide⟩)

end Scenario

theorem Step.count_newline_line {step : Step} (h : '\n' ∉ step.send.toList) :
    step.line.count 10 = 1 := by
  rw [line, List.count_append, List.count_eq_zero.mpr (Text.Utf8.newline_notMem_encode h)]
  rfl

/-- Lines hold one line end each. -/
theorem Step.count_newline_lines {steps : List Step}
    (h : ∀ step ∈ steps, '\n' ∉ step.send.toList) : (lines steps).count 10 = steps.length := by
  induction steps with
  | nil => rfl
  | cons step steps ih =>
    obtain ⟨hstep, hsteps⟩ := List.forall_mem_cons.mp h
    rw [lines, List.flatMap_cons, List.count_append, count_newline_line hstep, List.length_cons,
      Nat.add_comm]
    exact congrArg (· + 1) (ih hsteps)

namespace Dialogue

/-- At every moment of a run of a checked scenario, what was written is in turn: no byte of a line
is written before the first prompt has come, and for all lines before it the output that must
follow. Behind a failure comes nothing, for the moment of it is the last one. Unless a call that
writes has failed, the whole lines of all steps that passed or failed are written in the end, and
each has one line end. -/
theorem one_line_in_flight {s : Scenario} (hs : s.check = .ok ()) (g : Dialogue) :
    ∃ r last stop, EndsIn g s r last stop ∧
      (∀ m, MomentOf g s m →
        (∃ sent, m.input = g.session.device.input ++ sent ∧ InTurn s.steps m.matched sent) ∧
          Reaches m last ∧ ∀ stop', m.activity = .ended stop' → m = last) ∧
      ((∀ f, stop ≠ .refused f) →
        ∃ sent, last.input = g.session.device.input ++ sent ∧
          sent = Step.lines (begunSteps s.steps r.steps) ∧
            sent.count 10 = r.steps.countP (·.status != .skipped)) := by
  obtain ⟨hsingle, entries, hentries⟩ := Scenario.of_check hs g.prompt
  obtain ⟨r, last, stop, hend⟩ := endsIn_runScenario hentries
  have hsteps : stepsOf entries = s.steps := withPatterns_steps hentries
  have hreached : ∀ m, MomentOf g s m → Reaches (beginWait g 0 none entries) m := by
    rintro m ⟨entries', hentries', hm⟩
    rw [hentries] at hentries'
    cases hentries'
    exact hm
  -- The run is orderly as it begins, with nothing sent.
  have hbegin : Orderly g.session.device.input entries (beginWait g 0 none entries) :=
    orderly_beginWait (List.nil_append entries).symm (List.append_nil _).symm none
  refine ⟨r, last, stop, hend, fun m hm => ?_, fun hwhole => ?_⟩
  · have hlast := reaches_last (hreached last hend.moment) hend.ended (hreached m hm)
    refine ⟨?_, hlast, fun stop' hover => (eq_of_reaches_ended hover hlast).symm⟩
    rw [← hsteps]
    exact (orderly_of_reaches hbegin (hreached m hm)).inTurn
  · -- The last moment is orderly as all are, and tells what was sent in the end.
    have horderly := orderly_of_reaches hbegin (hreached last hend.moment)
    obtain ⟨g', n, activity⟩ := last
    obtain rfl : activity = .ended stop := hend.ended
    cases horderly with
    | @ended _ _ _ sent input inTurn whole =>
      have hsent : sent = Step.lines (begunSteps s.steps r.steps) := by
        rw [whole hwhole, hsteps, hend.begun]
      have hbegun : ∀ step ∈ begunSteps s.steps r.steps, '\n' ∉ step.send.toList := by
        rw [hend.begun]
        exact fun step hstep => hsingle step (List.mem_of_mem_take hstep)
      refine ⟨sent, input, hsent, ?_⟩
      rw [hsent, Step.count_newline_lines hbegun, length_begunSteps hend.results]

/-- Calls take two bytes at most. The second line is not answered in time, so the third one is not
written. -/
theorem one_line_in_flight_of_timeout :
    let g : Dialogue :=
      { session := ⟨.blank {}, 0, .ofScript
          { cues := [{ output := .data (encode "histprobe 1> ") },
              { output := .data (encode "abc\nhistprobe 2> "), lines := 1, due := 20 }]
            writeLimit? := some 2 }, {}⟩
        prompt := Config.defaultPrompt
        timeout := 100 }
    let s : Scenario :=
      { name := "three"
        steps := [⟨"first", "abc", .prompt⟩, ⟨"second", "d", .literal "e"⟩, ⟨"third", "f", .prompt⟩] }
    s.check = .ok () ∧ (g.runScenario s).2.session.device.input = encode "abc\nd\n" ∧
      ∃ r last stop, EndsIn g s r last stop ∧
        ∀ m, MomentOf g s m → ∃ sent, m.input = sent ∧ InTurn s.steps m.matched sent := by
  intro g s
  have hcheck : s.check = .ok () := ok_of_toOption (by decide +kernel)
  obtain ⟨r, last, stop, hend, hmoments, -⟩ := one_line_in_flight hcheck g
  exact ⟨hcheck, by decide +kernel, r, last, stop, hend, fun m hm => (hmoments m hm).1⟩

end Dialogue

end HistoryAudit
