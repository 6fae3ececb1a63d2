/-
  HistoryAudit.Proofs.Harness.Duration

  How long a run takes. It comes to its end in any case: each of its loops goes
  down on what is left of the script of the device or of the time to its deadline,
  as the definitions say. The parts of a run take no more than the waits of the
  scenario, the end of the shell and the pauses between looks at the log, which
  together are its limit (`run_in_time`).
-/
import HistoryAudit.Proofs.Harness.Cleanup
import HistoryAudit.Proofs.Scenario.Duration

namespace HistoryAudit

/-- Whatever others do, the clock does not go back. -/
theorem clock_le_of_othersActed {a b : List Device.Cue × Surroundings} (h : OthersActed a b) :
    a.2.clock ≤ b.2.clock := by
  induction h with
  | refl => exact Nat.le_refl _
  | tail _ hact ih =>
    refine Nat.le_trans ih ?_
    cases hact with
    | shell d c rest s => exact Nat.le_of_eq (Device.meet_clock d s c).symm
    | time cues s duration => exact Nat.le_add_right _ _

namespace Harness

/-! ## The parts of a run -/

/-- There is no pause behind the last look at the log. -/
theorem flushFrom_clock_le (path : OsText) (interval left polls : Nat) (last? : Option Nat)
    (s : Surroundings) :
    (flushFrom path interval left polls last? s).2.clock ≤ s.clock + (left - 1) * interval := by
  induction left generalizing polls last? s with
  | zero =>
    unfold flushFrom
    split <;> exact Nat.le_add_right _ _
  | succ left ih =>
    -- A look that decides nothing is followed by a pause, if another look is left.
    have hnext : ∀ polls last?,
        (flushFrom path interval left polls last?
          (if left = 0 then s else s.pause interval)).2.clock ≤ s.clock + left * interval := by
      intro polls last?
      refine Nat.le_trans (ih polls last? _) ?_
      cases left with
      | zero => exact Nat.le_refl _
      | succ left =>
        have hpause : (s.pause interval).clock = s.clock + interval := rfl
        rw [if_neg (Nat.succ_ne_zero left), hpause, Nat.add_sub_cancel, Nat.succ_mul]
        omega
    rw [Nat.add_sub_cancel]
    unfold flushFrom
    simp only
    split
    · split
      · exact Nat.le_add_right _ _
      · exact hnext _ _
    · exact hnext _ _

variable (c : Config) (scenario : Scenario) (runId : String) (path : OsText) (parent : Config.Variables)
  (d : Device) (s : Surroundings)

/-- A shell is started at once, and output is waited for as long as the settings say. -/
theorem start_within {d' : Device} {g : Dialogue}
    (h : Dialogue.start c parent d s = (.ok g, d')) :
    g.clock = s.clock ∧ g.timeout = c.timeout := by
  unfold Dialogue.start at h
  simp only at h
  split at h
  · rename_i session d₁ hstart
    obtain ⟨-, haround⟩ := Session.start_ok hstart
    cases h
    exact ⟨congrArg Surroundings.clock haround, rfl⟩
  · cases h

/-- The limit of a run: a wait for the first prompt and for each step, the time to end the shell,
and the pauses between the looks at the log. -/
def timeLimit (c : Config) (scenario : Scenario) : Nat :=
  (scenario.steps.length + 1) * (c.timeout + 4) + 800 +
    (max c.flush.attempts 1 - 1) * c.flush.interval

/-- The log is removed before the limit is over. -/
theorem beforeCleanup_clock_le :
    (beforeCleanup c scenario path parent d s).clock ≤ s.clock + timeLimit c scenario := by
  unfold beforeCleanup timeLimit
  split
  · exact Nat.le_add_right _ _
  · rename_i g d' hstart
    obtain ⟨hclock, htimeout⟩ := start_within c parent d s hstart
    have hran := (g.within_runScenario scenario).clock
    have hwait : Dialogue.longestWait g.timeout = c.timeout + 4 :=
      congrArg Dialogue.longestWait htimeout
    rw [hclock, hwait] at hran
    split
    · -- The scenario was not carried out, and the shell is given up.
      rename_i f g' hrun
      rw [hrun] at hran
      have hdrop : g'.drop.session.around.clock ≤ g'.clock + Session.dropWait :=
        g'.session.drop_clock_le
      simp only [Session.dropWait] at hran hdrop
      omega
    · rename_i report g' hrun
      rw [hrun] at hran
      -- The grace, the wait behind the second signal, and the one of giving up.
      have hclose : (g'.close shutdownGrace).2.session.around.clock ≤ g'.clock + 500 + 200 + 100 :=
        Session.close_clock_le 50 g'.session
      simp only at hran ⊢
      split
      · have hflush := flushFrom_clock_le path c.flush.interval (max c.flush.attempts 1) 0 none
          (g'.close shutdownGrace).2.session.around
        simp only [validateLog, waitForFlush]
        omega
      · omega

/-! ## Whole runs -/

/-- A report tells how long the run took up to the removal of the log. -/
theorem runAt_endedAt {report : Report}
    (h : (runAt c scenario runId path parent d s).result = .ok report) :
    report.endedAt = (beforeCleanup c scenario path parent d s).clock - s.clock := by
  rcases hstart : Dialogue.start c parent d s with ⟨f | g, d'⟩
  · simp only [runAt, hstart] at h
    cases h
  · rcases hrun : g.runScenario scenario with ⟨f | scenarioReport, g'⟩
    · simp only [runAt, hstart, hrun] at h
      cases h
    · simp only [runAt, hstart, hrun, conclude] at h
      cases h
      simp only [beforeCleanup, hstart, hrun]
      split <;> rfl

/-- Every run comes to an end before its limit is over, whatever the shell does, and a report tells
how long it took. -/
theorem run_in_time (c : Config) (scenario : Scenario) (runId : String)
    (parent : Config.Variables) (d : Device) (s : Surroundings) :
    let e := run c scenario runId parent d s
    s.clock ≤ e.around.clock ∧ e.around.clock ≤ s.clock + timeLimit c scenario ∧
      ∀ report, e.result = .ok report →
        s.clock + report.endedAt = e.around.clock ∧ report.endedAt ≤ timeLimit c scenario := by
  intro e
  rcases hcheck : scenario.check with f | _
  · have hrun : e = ⟨.error f, d, s⟩ := by simp only [e, run, hcheck]
    rw [hrun]
    exact ⟨Nat.le_refl _, Nat.le_add_right _ _, fun report h => by cases h⟩
  · cases hpath : c.history.logPath? with
    | none =>
      have hrun : e = ⟨.error locationFailure, d, s⟩ := by simp only [e, run, hcheck, hpath]
      rw [hrun]
      exact ⟨Nat.le_refl _, Nat.le_add_right _ _, fun report h => by cases h⟩
    | some path =>
      have hrun : e = runAt c scenario runId path parent d s := by
        simp only [e, run, hcheck, hpath]
      have hend : e.around.clock = (beforeCleanup c scenario path parent d s).clock := by
        rw [hrun, runAt_around]
      have hforth : s.clock ≤ e.around.clock := by
        rw [hend]
        exact clock_le_of_othersActed (runAt_others c scenario runId path parent d s)
      have hlimit : e.around.clock ≤ s.clock + timeLimit c scenario := by
        rw [hend]
        exact beforeCleanup_clock_le c scenario path parent d s
      refine ⟨hforth, hlimit, ?_⟩
      intro report hreport
      -- The report counts from the start of the run to the moment of the cleanup.
      have hended : report.endedAt = e.around.clock - s.clock := by
        rw [hend]
        exact runAt_endedAt c scenario runId path parent d s (hrun ▸ hreport)
      omega

/-- The limit is reached: each prompt comes in the last pause of its wait, the shell does not end
and is forced and given up in vain, and there is no log to be found. -/
theorem run_in_time_reached :
    let c : Config :=
      { history := .inDataDir "h" "d", shell := { prompt := "$ " }, timeout := 1
        flush := { attempts := 3, interval := 7 } }
    let scenario : Scenario := { name := "one", steps := [⟨"first", "a", .prompt⟩] }
    let d : Device := .ofScript
      { cues := [{ output := .data (Text.Utf8.encode "$ "), due := 5 },
          { output := .data (Text.Utf8.encode "$ "), lines := 1, due := 10 }]
        hasGroup := true }
    timeLimit c scenario = 824 ∧
      ∃ report, (run c scenario "" [] d {}).result = .ok report ∧ report.passed = false ∧
        report.endedAt = 824 ∧ (run c scenario "" [] d {}).around.clock = 824 := by
  intro c scenario d
  have hreport : (run c scenario "" [] d {}).result.toOption.map (fun r => (r.passed, r.endedAt)) =
      some (false, 824) := by decide +kernel
  obtain ⟨report, hresult, hfacts⟩ := Option.map_eq_some_iff.mp hreport
  obtain ⟨hpassed, hended⟩ := Prod.mk.injEq .. ▸ hfacts
  have hok := Dialogue.ok_of_toOption hresult
  have hclock := ((run_in_time c scenario "" [] d {}).2.2 report hok).1
  refine ⟨rfl, report, hok, hpassed, hended, ?_⟩
  rw [← hclock, hended]

end Harness

end HistoryAudit
