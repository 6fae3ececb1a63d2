/-
  HistoryAudit.Session.Shutdown

  The end of a session: waiting for the shell, asking it to end and forcing it,
  and what is done for a session that is given up.
-/
import HistoryAudit.Session.Basic

namespace HistoryAudit

namespace Session

/-- The pause between two looks whether the shell has ended. -/
def waitPause : Nat := 10

/-- Waits for the shell to end until `deadline`. -/
def waitUntil (deadline : Nat) (d : Device) (s : Surroundings) :
    Except SystemError (Option Exit) × Surroundings :=
  match d.tryWait s.clock with
  | .error e => (.error e, s)
  | .ok (some exit) => (.ok (some exit), s)
  | .ok none =>
    -- The look comes before the clock, so the last look is never skipped.
    if _h : deadline ≤ s.clock then (.ok none, s)
    else waitUntil deadline d (s.pause waitPause)
termination_by deadline - s.clock
decreasing_by
  simp only [Surroundings.pause, waitPause]
  omega

/-- Waits for the shell to end for at most `timeout`; there is at least one look. -/
def waitForExit (s : Session) (timeout : Nat) : Except Failure (Option Exit) × Session :=
  match waitUntil (s.around.clock + timeout) s.device s.around with
  | (.ok exit?, around) => (.ok exit?, { s with around })
  | (.error e, around) =>
    (.error (.ofSource "failed to wait for child" e.message), { s with around })

/-- How long a shell may take to end once it is forced. -/
def forcedWait : Nat := 200

def signal (s : Session) (signal : Signal) : Except Failure Unit × Session :=
  match s.device.signalGroup signal s.around.clock with
  | (some source, d) =>
    (.error (.ofSource "failed to signal process group" source), { s with device := d })
  | (none, d) => (.ok (), { s with device := d })

/-- Ends the shell, which has `grace` to end before it is forced. A process group is sent two
signals; a shell without one is killed. -/
def terminate (s : Session) (grace : Nat) : Except Failure (Option Exit) × Session :=
  match s.waitForExit 0 with
  | (.error f, s) => (.error f, s)
  | (.ok (some exit), s) => (.ok (some exit), s)
  | (.ok none, s) =>
    if s.device.script.hasGroup then
      match s.signal .terminate with
      | (.error f, s) => (.error f, s)
      | (.ok (), s) =>
        match s.waitForExit grace with
        | (.ok none, s) =>
          match s.signal .kill with
          | (.error f, s) => (.error f, s)
          | (.ok (), s) => s.waitForExit forcedWait
        | ended => ended
    else
      -- Without a group there is no gentle way: the shell is killed at once.
      match s.device.killShell s.around.clock with
      | (some e, d) =>
        (.error (.ofSource "failed to terminate child" e.message), { s with device := d })
      | (none, d) => { s with device := d }.waitForExit grace

/-- The pause between two looks at a shell that was given up. -/
def dropPause : Nat := 5

/-- For so long a shell that was given up is looked at. -/
def dropWait : Nat := 100

/-- Looks until `deadline` whether the shell has ended; a look that fails sees no end. -/
def dropUntil (deadline : Nat) (d : Device) (s : Surroundings) : Bool × Surroundings :=
  if _h : deadline ≤ s.clock then (false, s)
  else
    match d.tryWait s.clock with
    | .ok (some _) => (true, s)
    | _ => dropUntil deadline d (s.pause dropPause)
termination_by deadline - s.clock
decreasing_by
  simp only [Surroundings.pause, dropPause]
  omega

/-- Gives the session up: what was written is passed on, and the shell's process group, if it has
one, is asked to end and then ended. -/
def drop (s : Session) : Session :=
  let s := { s with device := s.device.flush.2 }
  match s.device.tryWait s.around.clock with
  | .ok (some _) => s
  | _ =>
    -- A look that fails counts as a shell that still runs.
    -- So does a signal that is refused: nothing more can be done.
    if s.device.script.hasGroup then
      let s := (s.signal .terminate).2
      let (ended, around) := dropUntil (s.around.clock + dropWait) s.device s.around
      let s := { s with around }
      if ended then s else (s.signal .kill).2
    else s

/-- Ends the session. It is given up in any case, also if the shell was ended. -/
def close (s : Session) (grace : Nat) : Except Failure (Option Exit) × Session :=
  match s.device.flush with
  | (some e, d) =>
    (.error (.ofSource "failed to flush pty writer during close" e.message),
      { s with device := d }.drop)
  | (none, d) =>
    let (r, s) := { s with device := d }.terminate grace
    (r, s.drop)

end Session

end HistoryAudit
