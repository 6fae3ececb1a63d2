/-
  HistoryAudit.Screen.Terminal

  A terminal: what the bytes fed to it leave on the screen. There are two grids,
  the usual one and one for programs that take the whole screen. A terminal keeps
  the bytes themselves, and the emulator goes over them when the screen is looked at.
-/
import HistoryAudit.Screen.Grid
import HistoryAudit.Screen.Sequence

namespace HistoryAudit.Screen

/-- The emulator between two bytes. -/
structure Emulator where
  decoder : Decoder := .ground
  grid : Grid
  /-- The other grid, for full screen programs. -/
  other : Grid
  alternate : Bool := false

namespace Emulator

def blank (size : Size) : Emulator := { grid := .blank size, other := .blank size }

def shown (t : Emulator) : Grid := if t.alternate then t.other else t.grid

def modify (t : Emulator) (f : Grid → Grid) : Emulator :=
  if t.alternate then { t with other := f t.other } else { t with grid := f t.grid }

def erase (mode : Nat) (after before all : Grid → Grid) : Grid → Grid :=
  match mode with
  | 0 => after
  | 1 => before
  | 2 => all
  | _ => id

def control (code : Nat) : Grid → Grid := fun g =>
  match code with
  | 8 => g.setCol (g.cursor.col - 1)
  | 9 => g.tab
  | 10 | 11 | 12 => g.lineFeed.2
  | 13 => (g.setCol 0).clampCol
  | _ => g

def escape (between : List Nat) (final : Char) (t : Emulator) : Emulator :=
  match between, final with
  | [], '7' => t.modify Grid.save
  | [], '8' => t.modify Grid.restore
  | [], 'M' => t.modify Grid.reverseLineFeed
  | [], 'c' => blank t.grid.size
  | _, _ => t

/-- The parameter at an index; zero and no parameter mean `default`. -/
def param (params : List (List Nat)) (i default : Nat) : Nat :=
  let n := (params.getD i []).headD 0
  if n = 0 then default else n

def command (params : List (List Nat)) (final : Char) : Grid → Grid := fun g =>
  let n := param params 0 1
  match final with
  | '@' => g.insertCells n
  | 'A' => g.up n
  | 'B' => g.down n
  | 'C' => (g.setCol (g.cursor.col + n)).clampCol
  | 'D' => g.setCol (g.cursor.col - n)
  | 'G' => (g.setCol (n - 1)).clampCol
  | 'H' => g.moveTo ⟨n - 1, param params 1 1 - 1⟩
  | 'J' => erase (param params 0 0) Grid.eraseAfter Grid.eraseBefore Grid.eraseAll g
  | 'K' => erase (param params 0 0) Grid.eraseRowAfter Grid.eraseRowBefore Grid.eraseRow g
  | 'L' => g.insertLines n
  | 'M' => g.deleteLines n
  | 'P' => g.deleteCells n
  | 'S' => g.scrollUp n
  | 'T' => g.scrollDown n
  | 'X' => g.eraseCells n
  | 'd' => g.setRow (min (n - 1) (g.size.rows - 1))
  | 'r' => g.setMargins (n - 1) (param params 1 g.size.rows - 1)
  | _ => g

def setMode (t : Emulator) : List Nat → Emulator
  | [6] => t.modify (·.setOrigin true)
  | [47] => { t with alternate := true }
  | [1049] => { t.modify Grid.save with other := .blank t.grid.size, alternate := true }
  | _ => t

def resetMode (t : Emulator) : List Nat → Emulator
  | [6] => t.modify (·.setOrigin false)
  | [47] => { t with alternate := false }
  | [1049] => { t with alternate := false }.modify Grid.restore
  | _ => t

def privateCommand (params : List (List Nat)) (final : Char) (t : Emulator) : Emulator :=
  match final with
  | 'J' | 'K' => t.modify (command params final)
  | 'h' => params.foldl setMode t
  | 'l' => params.foldl resetMode t
  | _ => t

def obey (t : Emulator) : Signal → Emulator
  | .print c => t.modify (·.write c)
  | .control code => t.modify (control code)
  | .escape between final => t.escape between final
  | .command [] params final => t.modify (command params final)
  | .command (0x3f :: _) params final => t.privateCommand params final
  | .command .. => t

def takeByte (t : Emulator) (b : UInt8) : Emulator :=
  let (decoder, signal?) := t.decoder.step b
  let t := { t with decoder }
  match signal? with
  | some signal => t.obey signal
  | none => t

def take (t : Emulator) (bytes : List UInt8) : Emulator := bytes.foldl takeByte t

end Emulator

/-- A terminal, with all that was fed to it. -/
structure Terminal where
  size : Size
  fed : List UInt8 := []

namespace Terminal

def blank (size : Size) : Terminal := { size }

def feed (t : Terminal) (bytes : List UInt8) : Terminal := { t with fed := t.fed ++ bytes }

@[simp]
theorem feed_nil (t : Terminal) : t.feed [] = t := by
  simp only [feed, List.append_nil]

/-- Bytes may be fed in pieces. -/
theorem feed_append (t : Terminal) (a b : List UInt8) : t.feed (a ++ b) = (t.feed a).feed b := by
  simp only [feed, List.append_assoc]

def emulator (t : Terminal) : Emulator := (Emulator.blank t.size).take t.fed

/-- The emulator goes on from where it was. -/
theorem emulator_feed (t : Terminal) (bytes : List UInt8) :
    (t.feed bytes).emulator = t.emulator.take bytes :=
  List.foldl_append

def snapshot (t : Terminal) : Snapshot := t.emulator.shown.snapshot

end Terminal

end HistoryAudit.Screen
