/-
  HistoryAudit.Device.Script

  How a terminal device and the shell behind it behave: what they write and
  when, how the shell ends, and which calls fail. A script is a list of cues;
  each cue may wait for input or for a time.
-/
import HistoryAudit.Device.Exit
import HistoryAudit.SystemError
import HistoryAudit.Text.OsText

namespace HistoryAudit.Device

/-- What a read meets. -/
inductive Output where
  | data (bytes : List UInt8)
  | idle
  | interrupted
  | failure (e : SystemError)
  /-- The end, which stays. -/
  | finished
  /-- The other side is closed, which stays. -/
  | hungUp
  deriving DecidableEq

/-- One part of a script. -/
structure Cue where
  output : Output
  /-- Waits until so many lines of input were written. -/
  lines : Nat := 0
  /-- Waits until this time. -/
  due : Nat := 0
  /-- A file that the shell writes just before. -/
  file? : Option (OsText × List UInt8) := none
  /-- The shell ends just before. -/
  exit? : Option Exit := none
  deriving DecidableEq

/-- Does the cue stay when it is met? -/
def Cue.stays (c : Cue) : Bool :=
  match c.output with
  | .finished | .hungUp => true
  | _ => false

/-- The steps of starting a shell on a device. -/
inductive Stage where
  | openDevice
  | startShell
  | openReader
  | openWriter
  /-- Asking for the flags of the descriptor. -/
  | getFlags
  /-- Setting them so that reads do not wait. -/
  | setFlags
  deriving DecidableEq

/-- A step that fails, and the system's words for it. -/
structure Breakdown where
  stage : Stage
  source : String
  deriving DecidableEq

def Breakdown.badDescriptor : Breakdown := ⟨.getFlags, "EBADF: Bad file number"⟩

/-- What becomes of the shell when it is sent a signal, or killed. -/
inductive Answer where
  /-- It goes on, or there is nobody to be sent anything. -/
  | ignored
  /-- It ends so, so much later, unless it ends before. -/
  | ends (delay : Nat) (exit : Exit)
  /-- So much later its end can no longer be asked for. -/
  | lost (delay : Nat)
  /-- It may not be sent anything. -/
  | refused
  deriving DecidableEq

/-- It ends at once, because its terminal is gone. -/
def Answer.hangsUp : Answer := .ends 0 (.signal "Hangup")

structure Script where
  cues : List Cue := []
  breakdown? : Option Breakdown := none
  /-- Writing fails from this call on, counted from zero. -/
  writeFails? : Option Nat := none
  /-- A call writes at most so many bytes. -/
  writeLimit? : Option Nat := none
  /-- Flushing fails from this call on, counted from zero. -/
  flushFails? : Option Nat := none
  /-- Has the shell a process group, which can be sent signals? -/
  hasGroup : Bool := false
  ends? : Option (Nat × Exit) := none
  /-- What a signal that asks it to end does to the shell. -/
  onTerminate : Answer := .ignored
  /-- What a signal that ends a process does to the shell. -/
  onKill : Answer := .ignored
  /-- What killing the shell itself does. -/
  kill : Answer := .hangsUp
  waitFails : Bool := false
  deriving DecidableEq

end HistoryAudit.Device
