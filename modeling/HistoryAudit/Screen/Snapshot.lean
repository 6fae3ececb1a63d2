/-
  HistoryAudit.Screen.Snapshot

  The size of a terminal and what can be seen on it.
-/
import HistoryAudit.Json.Fields
import HistoryAudit.Text.Blank

namespace HistoryAudit.Screen

open Json

structure Size where
  rows : Nat := 24
  cols : Nat := 80
  deriving DecidableEq, Repr

def Size.codec : Codec Size :=
  Codec.record "TerminalSize" <|
    (Fields.cons (.required "rows" (Codec.natural "u16" 16)) <|
      Fields.cons (.required "cols" (Codec.natural "u16" 16)) Fields.done).map
    (fun (rows, cols, ()) => ⟨rows, cols⟩)
    (fun s => (s.rows, s.cols, ()))

/-- A place on the screen, counted from zero. -/
structure Place where
  row : Nat := 0
  col : Nat := 0
  deriving DecidableEq, Repr

def Place.codec : Codec Place :=
  Codec.record "Cursor" <|
    (Fields.cons (.required "row" (Codec.natural "u16" 16)) <|
      Fields.cons (.required "col" (Codec.natural "u16" 16)) Fields.done).map
    (fun (row, col, ()) => ⟨row, col⟩)
    (fun p => (p.row, p.col, ()))

structure Snapshot where
  rows : Nat
  cols : Nat
  cursor : Place
  /-- One text for each row, without blanks at its end. -/
  lines : List String
  deriving DecidableEq

namespace Snapshot

def codec : Codec Snapshot :=
  Codec.record "ScreenSnapshot" <|
    (Fields.cons (.required "rows" (Codec.natural "u16" 16)) <|
      Fields.cons (.required "cols" (Codec.natural "u16" 16)) <|
      Fields.cons (.required "cursor" Place.codec) <|
      Fields.cons (.required "lines" Codec.text.list) Fields.done).map
    (fun (rows, cols, cursor, lines, ()) => ⟨rows, cols, cursor, lines⟩)
    (fun s => (s.rows, s.cols, s.cursor, s.lines, ()))

def nonEmptyLines (s : Snapshot) : List String :=
  s.lines.filter fun line => line.toList.any (!Text.isBlank ·)

end Snapshot

end HistoryAudit.Screen
