/-
  HistoryAudit.Session.Basic

  A shell on a terminal device: starting it, writing to it, and reading what it
  writes. A read waits for the first byte only; what arrives also goes to the
  terminal that keeps the screen.
-/
import HistoryAudit.Config.Environment
import HistoryAudit.Device.Basic
import HistoryAudit.Screen.Terminal

namespace HistoryAudit

open Json (Value)

structure Session where
  terminal : Screen.Terminal
  startedAt : Nat
  device : Device
  around : Surroundings

namespace Session

/-! ## Starting -/

/-- What is started, and on what. -/
structure Setup where
  command : String
  args : List String
  cwd? : Option String := none
  size : Screen.Size := {}
  env : Config.EnvPolicy := .standard

def stageFailure (command : String) (b : Device.Breakdown) : Failure :=
  match b.stage with
  | .openDevice => .ofSource "failed to open pty" b.source
  | .startShell =>
    ⟨.inputOutput, "failed to spawn shell",
      some (.object [("command", .string command), ("source", .string b.source)])⟩
  | .openReader => .ofSource "failed to clone pty reader" b.source
  | .openWriter => .ofSource "failed to take pty writer" b.source
  | .getFlags => .ofSource "failed to get fd flags" b.source
  | .setFlags => .ofSource "failed to set nonblocking" b.source

/-- Starts a shell. The variables are checked once the device is open, and nothing is undone if a
later step fails. -/
def start (setup : Setup) (parent : Config.Variables) (d : Device) (s : Surroundings) :
    Except Failure Session × Device :=
  let failure? (early : Device.Stage → Bool) : Option Failure :=
    (d.script.breakdown?.filter (early ·.stage)).map (stageFailure setup.command)
  match failure? (· == .openDevice) with
  | some f => (.error f, d)
  | none =>
    let d := { d with size? := some (setup.size.rows, setup.size.cols) }
    match setup.env.resolve parent, failure? (· == .startShell) with
    | .error f, _ | .ok _, some f => (.error f, d)
    | .ok env, none =>
      let launch : Launch := ⟨setup.command :: setup.args, Value.sortMembers env, setup.cwd?⟩
      let d := { d with launch? := some launch }
      match failure? fun _ => true with
      | some f => (.error f, d)
      | none => (.ok ⟨.blank setup.size, s.clock, d, s⟩, d)

/-! ## Writing -/

def write (s : Session) (bytes : List UInt8) : Except Failure Unit × Session :=
  match s.device.write bytes with
  | (some e, d) => (.error (.ofSource "failed to write to pty" e.message), { s with device := d })
  | (none, d) =>
    match d.flush with
    | (some e, d) =>
      (.error (.ofSource "failed to flush pty writer" e.message), { s with device := d })
    | (none, d) => (.ok (), { s with device := d })

/-! ## Reading -/

inductive Chunk where
  | data (bytes : List UInt8)
  | idle
  /-- The device is closed: the shell is gone. -/
  | finished
  deriving DecidableEq

/-- The pause between two looks for the first byte. -/
def idlePause : Nat := 5

/-- Reads until nothing more is there, waiting for the first byte up to `deadline`. `got` was read
before. The result tells whether the device is closed. -/
def gather (deadline : Nat) (got : List UInt8) (d : Device) (s : Surroundings) :
    Except SystemError (List UInt8 × Bool) × Device × Surroundings :=
  match _h : d.read s with
  | (.data bytes, d', s') => gather deadline (got ++ bytes) d' s'
  | (.interrupted, d', s') => gather deadline got d' s'
  | (.finished, d', s') => (.ok (got, true), d', s')
  | (.hungUp, d', s') => (.ok (got, true), d', s')
  | (.failure e, d', s') => (.error e, d', s')
  | (.wouldBlock, d', s') =>
    if got ≠ [] ∨ deadline ≤ s'.clock then (.ok (got, false), d', s')
    else gather deadline got d' (s'.pause idlePause)
termination_by d.weight + (deadline - s.clock)
decreasing_by
  · have hw := d.read_weight s
    have hc := d.read_clock s
    simp only [_h, Device.Read.more, forall_const] at hw hc
    omega
  · have hw := d.read_weight s
    have hc := d.read_clock s
    simp only [_h, Device.Read.more, forall_const] at hw hc
    omega
  · rename_i hn
    have hw := d.read_weight s
    have hc := d.read_clock s
    simp only [_h] at hw hc
    simp only [not_or, Nat.not_le] at hn
    simp only [Surroundings.pause, idlePause]
    omega

/-- Reads for at most `timeout`. What was read is lost if an error follows. -/
def read (s : Session) (timeout : Nat) : Except Failure Chunk × Session :=
  match gather (s.around.clock + timeout) [] s.device s.around with
  | (.error e, device, around) =>
    (.error (.ofSource "failed to read pty" e.message), { s with device, around })
  | (.ok (bytes, finished), device, around) =>
    if bytes.isEmpty then (.ok (if finished then .finished else .idle), { s with device, around })
    else (.ok (.data bytes), { s with terminal := s.terminal.feed bytes, device, around })

/-! ## Looking -/

def snapshot (s : Session) : Screen.Snapshot := s.terminal.snapshot

def elapsed (s : Session) : Nat := s.around.clock - s.startedAt

def pause (s : Session) (duration : Nat) : Session :=
  { s with around := s.around.pause duration }

end Session

end HistoryAudit
