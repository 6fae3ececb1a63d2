/-
  HistoryAudit.Harness.Artifact

  The log as a file: reading it for validation, waiting until the shell has
  written it, and removing it.
-/
import HistoryAudit.Config.Harness
import HistoryAudit.Harness.Report
import HistoryAudit.Surroundings
import HistoryAudit.Text.Utf8

namespace HistoryAudit

namespace Audit

def Outcome.ofRead (content : Except Files.FileError (List UInt8)) (t : Thresholds) : Outcome :=
  match content with
  | .ok bytes =>
    match Text.Utf8.decode bytes with
    | .ok text => .ofText text t
    | .error b => .unreadable ("history file is not valid UTF-8: " ++ b.message)
  | .error .notFound => .missing
  | .error e => .unreadable ("failed to read history file: " ++ e.message)

def validate (files : Files.Tree) (path : OsText) (t : Thresholds) : Report :=
  ⟨path, .ofRead (files.read path) t⟩

end Audit

namespace Harness

open Json Files

def removalFailure (path : OsText) (e : FileError) : Failure :=
  ⟨.inputOutput, "failed to remove history file",
    some (.object [("path", .string path.shown), ("source", .string e.message)])⟩

/-- Removes the log. That there is none is no failure. -/
def removeLog (files : Tree) (path : OsText) : Except Failure Cleanup × Tree :=
  match files.remove path with
  | .ok files' => (.ok .removed, files')
  | .error .notFound => (.ok .absent, files)
  | .error e => (.error (removalFailure path e), files)

/-- Removes the log and tells what became of it. -/
def cleanUp (files : Tree) (path : OsText) : Cleanup × Tree :=
  match removeLog files path with
  | (.ok status, files') => (status, files')
  | (.error f, files') => (.failed f.line, files')

/-- How the wait for the log ended, after so many looks. -/
inductive FlushStatus where
  /-- The log is not empty and has not grown between the last two looks. -/
  | stable (polls bytes : Nat)
  /-- The last look found the log, but it had changed or was empty. -/
  | unstable (polls bytes : Nat)
  | missing (polls : Nat)
  deriving DecidableEq

/-- Waits for the log, `left` looks being left after `polls` were made and the last one found
`last?`. There is no pause behind the last look. -/
def flushFrom (path : OsText) (interval : Nat) :
    (left polls : Nat) → (last? : Option Nat) → Surroundings → FlushStatus × Surroundings
  | 0, polls, last?, s =>
    match last? with
    | some bytes => (.unstable polls bytes, s)
    | none => (.missing polls, s)
  | left + 1, polls, last?, s =>
    let size? := s.files.size? path
    match last?, size? with
    | some previous, some current =>
      if previous = current ∧ current > 0 then (.stable (polls + 1) current, s)
      else
        flushFrom path interval left (polls + 1) size? (if left = 0 then s else s.pause interval)
    | _, _ =>
      flushFrom path interval left (polls + 1) size? (if left = 0 then s else s.pause interval)

/-- Looks for the log until two looks agree or none is left; there is at least one look. -/
def waitForFlush (path : OsText) (policy : Config.FlushPolicy) (s : Surroundings) :
    FlushStatus × Surroundings :=
  flushFrom path policy.interval (max policy.attempts 1) 0 none s

end Harness

end HistoryAudit
