/-
  HistoryAudit.Proofs.Harness.Cleanup

  What a run does to the files. Up to the moment of the cleanup only others
  change them (`runAt_others`), and the cleanup takes away the log and nothing
  else (`cleanUp_elsewhere`). So however a run ends, no file is left where the
  log is kept unless something barred it from being removed, and the report tells
  what stood there (`run_cleans_up`).
-/
import HistoryAudit.Harness.Run
import HistoryAudit.Proofs.Files.Removal
import HistoryAudit.Proofs.Scenario.Others

namespace HistoryAudit.Harness

open Device (Cue)
open Files (Route Tree)

/-! ## Removing the log -/

section Removing

variable {files : Tree} {path : OsText}

/-- What the removal of the log comes to. -/
theorem cleanUp_cases (files : Tree) (path : OsText) :
    (∃ files', files.remove path = .ok files' ∧ cleanUp files path = (.removed, files')) ∨
      (files.remove path = .error .notFound ∧ cleanUp files path = (.absent, files)) ∨
      ∃ e, files.remove path = .error e ∧ e ≠ .notFound ∧
        cleanUp files path = (.failed (removalFailure path e).line, files) := by
  cases h : files.remove path with
  | ok files' => exact .inl ⟨files', rfl, by rw [cleanUp, removeLog, h]⟩
  | error e =>
    by_cases he : e = .notFound
    · subst he
      exact .inr (.inl ⟨rfl, by rw [cleanUp, removeLog, h]⟩)
    · refine .inr (.inr ⟨e, rfl, he, ?_⟩)
      rw [cleanUp, removeLog, h]
      cases e with
      | notFound => exact absurd rfl he
      | _ => rfl

/-- The report says that the log was removed iff a file stood there that was not barred from it. -/
theorem cleanUp_removed_iff :
    (cleanUp files path).1 = .removed ↔ files.HasFile path ∧ ¬files.Barred path := by
  rw [← Tree.remove_iff]
  obtain ⟨files', hr, hc⟩ | ⟨hr, hc⟩ | ⟨e, hr, -, hc⟩ := cleanUp_cases files path <;>
    simp [hr, hc]

/-- It says that there was none iff nothing stood there, and nothing in the way to it. -/
theorem cleanUp_absent_iff :
    (cleanUp files path).1 = .absent ↔ files.Vacant path ∧ ¬files.Blocked path := by
  rw [← Tree.remove_notFound_iff]
  obtain ⟨files', hr, hc⟩ | ⟨hr, hc⟩ | ⟨e, hr, he, hc⟩ := cleanUp_cases files path
  · simp [hr, hc]
  · simp [hr, hc]
  · simp [hr, hc, he]

/-- It says that the cleanup failed iff the removal was refused, and why it was. -/
theorem cleanUp_failed_iff {message : String} :
    (cleanUp files path).1 = .failed message ↔
      ∃ e, files.remove path = .error e ∧ e ≠ .notFound ∧
        message = (removalFailure path e).line := by
  obtain ⟨files', hr, hc⟩ | ⟨hr, hc⟩ | ⟨e, hr, he, hc⟩ := cleanUp_cases files path
  · simp [hr, hc]
  · simp [hr, hc]
  · simp [hr, hc, he, eq_comm]

/-- The removal is refused iff the file is barred from it, or a directory stands there, or something
in the way to it. -/
theorem cleanUp_refused_iff :
    (∃ message, (cleanUp files path).1 = .failed message) ↔
      files.Barred path ∨ files.HasDirectory path ∨ files.Blocked path := by
  rw [← Tree.remove_refused_iff]
  simp only [cleanUp_failed_iff]
  constructor
  · rintro ⟨message, e, hr, he, -⟩
    exact ⟨e, hr, he⟩
  · rintro ⟨e, hr, he⟩
    exact ⟨_, e, hr, he, rfl⟩

theorem cleanUp_files (files : Tree) (path : OsText) :
    (cleanUp files path).2 = (removeLog files path).2 := by
  unfold cleanUp
  split <;> simp [*]

/-- A file is left where the log is kept iff it was barred from being removed. -/
theorem cleanUp_hasFile_iff :
    (cleanUp files path).2.HasFile path ↔ files.Barred path := by
  -- If the removal has failed, the files are as they were.
  have hkept : (¬∃ files', files.remove path = .ok files') →
      (files.HasFile path ↔ files.Barred path) := by
    rw [Tree.remove_iff]
    exact fun h => ⟨fun hfile => not_not.mp fun hfree => h ⟨hfile, hfree⟩, Tree.Barred.hasFile⟩
  obtain ⟨files', hr, hc⟩ | ⟨hr, hc⟩ | ⟨e, hr, -, hc⟩ := cleanUp_cases files path
  · rw [hc]
    refine iff_of_false (Tree.vacant_of_remove hr).not_hasFile ?_
    exact (Tree.remove_iff.mp ⟨files', hr⟩).2
  · rw [hc]
    exact hkept (by simp [hr])
  · rw [hc]
    exact hkept (by simp [hr])

/-- Each place is as it was before the cleanup, unless a file stood there and it was the log. -/
theorem cleanUp_elsewhere (files : Tree) (path : OsText) (route : Route) :
    (cleanUp files path).2.find? route = files.find? route ∨
      files.locate path = .ok route ∧ (∃ content, files.find? route = some (.file content)) ∧
        (cleanUp files path).2.find? route = none := by
  obtain ⟨files', hr, hc⟩ | ⟨-, hc⟩ | ⟨e, -, -, hc⟩ := cleanUp_cases files path
  · obtain ⟨place, content, hloc, hfile, -, rfl⟩ := Tree.remove_ok_iff.1 hr
    rw [hc]
    by_cases hplace : route = place
    · subst hplace
      exact .inr ⟨hloc, ⟨content, hfile⟩, Tree.find?_erase_self (Tree.ne_nil_of_file hfile)⟩
    · exact .inl (Tree.find?_erase_of_ne hplace)
  · rw [hc]
    exact .inl rfl
  · rw [hc]
    exact .inl rfl

end Removing

/-! ## The moment of the cleanup -/

variable (c : Config) (scenario : Scenario) (runId : String) (path : OsText) (parent : Config.Variables)
  (d : Device) (s : Surroundings)

/-- The surroundings at the moment at which the log is removed: the shell did not start, or it was
given up, or it was ended and the log, if the scenario came to its end, was validated. -/
def beforeCleanup : Surroundings :=
  match Dialogue.start c parent d s with
  | (.error _, _) => s
  | (.ok g, _) =>
    match g.runScenario scenario with
    | (.error _, g) => g.drop.session.around
    | (.ok report, g) =>
      let s := (g.close shutdownGrace).2.session.around
      if report.completed then (validateLog c path s).2 else s

/-- The files that a run leaves are those of that moment after the cleanup. -/
theorem runAt_around :
    (runAt c scenario runId path parent d s).around =
      { beforeCleanup c scenario path parent d s with
        files := (cleanUp (beforeCleanup c scenario path parent d s).files path).2 } := by
  rcases hstart : Dialogue.start c parent d s with ⟨f | g, d'⟩
  · simp only [runAt, beforeCleanup, hstart, withoutLog, cleanUp_files]
  · rcases hrun : g.runScenario scenario with ⟨f | report, g'⟩
    · simp only [runAt, beforeCleanup, hstart, hrun, withoutLog, cleanUp_files]
    · simp only [runAt, beforeCleanup, hstart, hrun, conclude]
      split <;> rfl

/-- A report tells of the cleanup of that moment. -/
theorem runAt_cleanup {report : Report}
    (h : (runAt c scenario runId path parent d s).result = .ok report) :
    report.cleanup = (cleanUp (beforeCleanup c scenario path parent d s).files path).1 := by
  rcases hstart : Dialogue.start c parent d s with ⟨f | g, d'⟩
  · simp only [runAt, hstart] at h
    cases h
  · rcases hrun : g.runScenario scenario with ⟨f | scenarioReport, g'⟩
    · simp only [runAt, hstart, hrun] at h
      cases h
    · simp only [runAt, hstart, hrun, conclude] at h
      cases h
      simp only [beforeCleanup, hstart, hrun]
      split <;> rfl

/-! ## What others do up to that moment -/

theorem flushFrom_others (cues : List Cue) (interval left polls : Nat) (last? : Option Nat) :
    OthersActed (cues, s) (cues, (flushFrom path interval left polls last? s).2) := by
  -- Looking leaves the files alone; a pause lets the others act.
  induction left generalizing polls last? s with
  | zero =>
    unfold flushFrom
    split <;> exact .refl
  | succ left ih =>
    have hpause : OthersActed (cues, s) (cues, if left = 0 then s else s.pause interval) := by
      split
      · exact .refl
      · exact .single (.time cues s interval)
    unfold flushFrom
    simp only
    split
    · split
      · exact .refl
      · exact hpause.trans (ih _ _ _)
    · exact hpause.trans (ih _ _ _)

/-- From the beginning of a run to the cleanup, only others change the files. -/
theorem runAt_others :
    OthersActed (d.cues, s)
      ((runAt c scenario runId path parent d s).device.cues,
        beforeCleanup c scenario path parent d s) := by
  rcases hstart : Dialogue.start c parent d s with ⟨f | g, d'⟩
  · simp only [runAt, beforeCleanup, hstart]
    rw [Dialogue.start_error hstart]
  · have hran := Dialogue.runScenario_others scenario (Dialogue.start_ok hstart)
    rcases hrun : g.runScenario scenario with ⟨f | report, g'⟩
    · rw [hrun] at hran
      simp only [runAt, beforeCleanup, hstart, hrun]
      exact hran.drop
    · -- The shell is closed, and the log waited for if the scenario came to its end.
      rw [hrun] at hran
      have hclosed := hran.close shutdownGrace
      simp only [runAt, beforeCleanup, hstart, hrun, conclude]
      split
      · exact hclosed.trans (flushFrom_others path _ _ _ _ _ _)
      · exact hclosed

/-! ## Whole runs -/

/-- What a run leaves, the surroundings being `t` at the moment of the cleanup. -/
structure CleanedUp (path : OsText) (d : Device) (s t : Surroundings) (e : Ending) : Prop where
  /-- Up to that moment only others have changed the files. -/
  others : OthersActed (d.cues, s) (e.device.cues, t)
  /-- The cleanup changes nothing but the files. -/
  around : e.around = { t with files := e.around.files }
  /-- A file is left where the log is kept iff it was barred from being removed. -/
  gone : e.around.files.HasFile path ↔ t.files.Barred path
  /-- Each place is as it was, unless it is that of the log and a file stood there. -/
  elsewhere : ∀ route, e.around.files.find? route = t.files.find? route ∨
    t.files.locate path = .ok route ∧ (∃ content, t.files.find? route = some (.file content)) ∧
      e.around.files.find? route = none
  removed : ∀ report, e.result = .ok report →
    (report.cleanup = .removed ↔ t.files.HasFile path ∧ ¬t.files.Barred path)
  /-- Of a path with a file in its way nothing is said. -/
  absent : ∀ report, e.result = .ok report → ¬t.files.Blocked path →
    (report.cleanup = .absent ↔ t.files.Vacant path)
  refused : ∀ report, e.result = .ok report → ¬t.files.Blocked path →
    ((∃ message, report.cleanup = .failed message) ↔
      t.files.Barred path ∨ t.files.HasDirectory path)
  failed : ∀ report, e.result = .ok report → ∀ message, report.cleanup = .failed message →
    ∃ error, t.files.remove path = .error error ∧ error ≠ .notFound ∧
      message = (removalFailure path error).line

theorem runAt_cleanedUp :
    CleanedUp path d s (beforeCleanup c scenario path parent d s)
      (runAt c scenario runId path parent d s) where
  others := runAt_others c scenario runId path parent d s
  around := by rw [runAt_around]
  gone := by
    rw [runAt_around]
    exact cleanUp_hasFile_iff
  elsewhere route := by
    rw [runAt_around]
    exact cleanUp_elsewhere _ path route
  removed report h := by
    rw [runAt_cleanup c scenario runId path parent d s h]
    exact cleanUp_removed_iff
  absent report h hfree := by
    rw [runAt_cleanup c scenario runId path parent d s h, cleanUp_absent_iff]
    exact and_iff_left hfree
  refused report h hfree := by
    rw [runAt_cleanup c scenario runId path parent d s h, cleanUp_refused_iff,
      or_iff_left hfree]
  failed report h message := by
    rw [runAt_cleanup c scenario runId path parent d s h]
    exact cleanUp_failed_iff.mp

end HistoryAudit.Harness
