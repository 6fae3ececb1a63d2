/-
  HistoryAudit.Dialogue.Basic

  A dialogue with a shell: sending lines and waiting for output. Output that was
  not matched is kept; a match takes all up to its end, so what is waited for
  next has to follow it.
-/
import HistoryAudit.Config.Harness
import HistoryAudit.Pattern.Basic
import HistoryAudit.Session.Lemmas
import HistoryAudit.Session.Shutdown

namespace HistoryAudit

open Json (Value)

structure Dialogue where
  session : Session
  buffer : List UInt8 := []
  prompt : String
  /-- The number of the last prompt that was matched. -/
  lastNumber? : Option Nat := none
  timeout : Nat
  /-- Was the device found closed? -/
  ended : Bool := false

namespace Dialogue

/-- A part of the output that was waited for, and what came before it. -/
structure Match where
  before : String
  matched : String
  deriving DecidableEq

inductive Outcome where
  | matched (m : Match)
  | timedOut (waited : Nat) (pending : String) (screen : Screen.Snapshot)
  /-- The shell is gone and there is no match. -/
  | exited (pending : String)

def start (c : Config) (parent : Config.Variables) (d : Device) (s : Surroundings) :
    Except Failure Dialogue × Device :=
  let setup : Session.Setup :=
    { command := c.shell.command
      args := c.shell.args
      cwd? := c.shell.cwd?
      size := c.size
      env := c.shellEnv }
  match Session.start setup parent d s with
  | (.ok session, d) => (.ok { session, prompt := c.shell.prompt, timeout := c.timeout }, d)
  | (.error f, d) => (.error f, d)

/-! ## Sending -/

def send (g : Dialogue) (text : String) : Except Failure Unit × Dialogue :=
  let (r, session) := g.session.write (Text.Utf8.encode text)
  (r, { g with session })

def sendLine (g : Dialogue) (text : String) : Except Failure Unit × Dialogue :=
  g.send (text ++ "\n")

/-! ## Waiting -/

/-- The bytes of a match, and those before it. -/
structure Taken where
  before : List UInt8
  matched : List UInt8
  deriving DecidableEq

/-- The text of a match; what is no text is replaced. -/
def Taken.toMatch (t : Taken) : Match := ⟨Text.Utf8.lossy t.before, Text.Utf8.lossy t.matched⟩

/-- Takes the first match from the buffer, with all that comes before it. -/
def take? (g : Dialogue) (p : Pattern) : Option (Taken × Dialogue) :=
  (p.find? g.buffer).map fun extent =>
    let rest := g.buffer.drop extent.start
    (⟨g.buffer.take extent.start, rest.take extent.length⟩,
      { g with buffer := rest.drop extent.length })

/-- So many bytes of the buffer are shown when a wait fails. -/
def tailLength : Nat := 512

def pending (g : Dialogue) : String :=
  Text.Utf8.lossy (g.buffer.drop (g.buffer.length - tailLength))

/-- A single read waits for at most so long. -/
def readSlice : Nat := 50

/-- Reads once for at most `timeout`, and keeps what arrives. -/
def listen (g : Dialogue) (timeout : Nat) : Except Failure Unit × Dialogue :=
  let (r, session) := g.session.read timeout
  match r with
  | .error f => (.error f, { g with session })
  | .ok (.data bytes) => (.ok (), { g with session, buffer := g.buffer ++ bytes })
  | .ok .idle => (.ok (), { g with session })
  | .ok .finished => (.ok (), { g with session, ended := true })

def clock (g : Dialogue) : Nat := g.session.around.clock

/-- What is left to wait for: output to come, time, and the end. -/
def patience (deadline : Nat) (g : Dialogue) : Nat :=
  g.session.device.weight + (deadline - g.clock) + (if g.ended then 0 else 1)

/-- A read before the deadline takes from what is left to wait for. -/
theorem listen_patience {deadline : Nat} {g g' : Dialogue} (he : g.ended = false)
    (hd : g.clock < deadline) (h : g.listen (min (deadline - g.clock) readSlice) = (.ok (), g')) :
    g'.patience deadline < g.patience deadline := by
  have hc := g.session.read_clock (min (deadline - g.clock) readSlice)
  have hw := g.session.read_weight_le (min (deadline - g.clock) readSlice)
  -- Data takes from the weight, a look without data takes time, and the end comes once.
  have hl : ∀ bytes, (g.session.read (min (deadline - g.clock) readSlice)).1 = .ok (.data bytes) →
      (g.session.read (min (deadline - g.clock) readSlice)).2.device.weight <
        g.session.device.weight :=
    fun _ => g.session.read_weight_lt _
  have hi := g.session.read_idle (min (deadline - g.clock) readSlice)
  unfold listen at h
  simp only at h
  unfold clock at hd hi
  split at h
  · simp at h
  · rename_i bytes hr
    have := hl bytes hr
    simp only [Prod.mk.injEq, true_and] at h
    subst h
    simp only [patience, clock, he]
    unfold clock at hc this
    omega
  · rename_i hr
    have := hi hr
    simp only [Prod.mk.injEq, true_and] at h
    subst h
    simp only [patience, clock, he]
    unfold clock at hc hw
    simp only [readSlice] at *
    omega
  · simp only [Prod.mk.injEq, true_and] at h
    subst h
    simp only [patience, clock, he]
    unfold clock at hc hw
    simp only [Bool.false_eq_true, if_false, if_true]
    omega

/-- Waits for a match until `deadline`, the wait having begun at `started`. A match is looked for
before anything else, so that output which has arrived counts even after the deadline. -/
def waitUntil (started deadline : Nat) (p : Pattern) (g : Dialogue) :
    Except Failure Outcome × Dialogue :=
  match g.take? p with
  | some (t, g) => (.ok (.matched t.toMatch), g)
  | none =>
    if _he : g.ended = true then (.ok (.exited g.pending), g)
    else if _hd : deadline ≤ g.clock then
      (.ok (.timedOut (g.clock - started) g.pending g.session.snapshot), g)
    else
      match _h : g.listen (min (deadline - g.clock) readSlice) with
      | (.error f, g') => (.error f, g')
      | (.ok (), g') => waitUntil started deadline p g'
termination_by g.patience deadline
decreasing_by
  exact listen_patience (by simpa using _he) (by omega) _h

def expectWithin (g : Dialogue) (p : Pattern) (timeout : Nat) :
    Except Failure Outcome × Dialogue :=
  waitUntil g.clock (g.clock + timeout) p g

def expect (g : Dialogue) (p : Pattern) : Except Failure Outcome × Dialogue :=
  g.expectWithin p g.timeout

def timeoutFailure (p : Pattern) (waited : Nat) (pending : String) (screen : Screen.Snapshot) :
    Failure :=
  ⟨.timeout, "timed out waiting for " ++ p.describe,
    some (.object [("pending_output", .string pending),
      ("screen", Value.strings screen.nonEmptyLines), ("waited_ms", .nat waited)])⟩

def exitFailure (p : Pattern) (pending : String) : Failure :=
  ⟨.processExit, "shell exited while waiting for " ++ p.describe,
    some (.object [("pending_output", .string pending)])⟩

def Outcome.toMatch (p : Pattern) : Outcome → Except Failure Match
  | .matched m => .ok m
  | .timedOut waited pending screen => .error (timeoutFailure p waited pending screen)
  | .exited pending => .error (exitFailure p pending)

/-- Waits for a match; that there is none is a failure. -/
def expectMatch (g : Dialogue) (p : Pattern) : Except Failure Match × Dialogue :=
  match g.expect p with
  | (.ok outcome, g) => (outcome.toMatch p, g)
  | (.error f, g) => (.error f, g)

def largestNumber : Nat := Nat.pow 2 64 - 1

/-- The least number that the next prompt may have. -/
def nextNumber (g : Dialogue) : Nat :=
  match g.lastNumber? with
  | some n => min (n + 1) largestNumber
  | none => 0

/-- Waits for the prompt. A prompt with a number has to have a greater one than the last, so that a
prompt which is painted again does not count. -/
def expectPrompt (g : Dialogue) : Except Failure Match × Dialogue :=
  match Pattern.ofPrompt g.prompt g.nextNumber with
  | .error f => (.error f, g)
  | .ok p =>
    match g.expectMatch p with
    | (.ok m, g) => (.ok m, { g with lastNumber? := (p.number? m.matched).or g.lastNumber? })
    | (.error f, g) => (.error f, g)

def expectLiteral (g : Dialogue) (text : String) : Except Failure Match × Dialogue :=
  g.expectMatch (.literal text)

def expectRegex (g : Dialogue) (source : String) : Except Failure Match × Dialogue :=
  match Pattern.ofRegex source with
  | .error f => (.error f, g)
  | .ok p => g.expectMatch p

def pause (g : Dialogue) (duration : Nat) : Dialogue :=
  { g with session := g.session.pause duration }

def close (g : Dialogue) (grace : Nat) : Except Failure (Option Exit) × Dialogue :=
  let (r, session) := g.session.close grace
  (r, { g with session })

/-- Gives the shell up. -/
def drop (g : Dialogue) : Dialogue := { g with session := g.session.drop }

end Dialogue

end HistoryAudit
