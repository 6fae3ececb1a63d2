/-
  HistoryAudit.Screen.Row

  Cells and rows of a screen. A wide character takes two cells: the first holds
  it and the second continues it. Whoever changes one half clears the other.
-/
import HistoryAudit.Screen.Width
import HistoryAudit.Text.Blank

namespace HistoryAudit.Screen

/-- A cell: a character with the characters that join it, and its part in a wide character. -/
structure Cell where
  text : List Char := []
  wide : Bool := false
  continues : Bool := false
  deriving DecidableEq, Inhabited

namespace Cell

def blank : Cell := {}

def filled (c : Cell) : Bool := !c.text.isEmpty

def ofChar (c : Char) : Cell := ⟨[c], (width? c).getD 1 > 1, false⟩

/-- A cell holds at most so many characters. -/
def capacity : Nat := 6

/-- Joins a character to the cell; in an empty one a space goes before it. -/
def join (cell : Cell) (c : Char) : Cell :=
  if cell.text.length ≥ capacity then cell
  else { cell with text := (if cell.filled then cell.text else [' ']) ++ [c] }

end Cell

/-- A row: its cells, and whether its text goes on in the next row. -/
structure Row where
  cells : Array Cell
  wrapped : Bool := false
  deriving Inhabited

namespace Row

def blank (cols : Nat) : Row := ⟨Array.replicate cols Cell.blank, false⟩

/-- The cell at a column; beyond the row it is empty. -/
def cell (r : Row) (col : Nat) : Cell := r.cells.getD col Cell.blank

def modifyCell (r : Row) (col : Nat) (f : Cell → Cell) : Row :=
  { r with cells := r.cells.modify col f }

def setCell (r : Row) (col : Nat) (c : Cell) : Row := r.modifyCell col fun _ => c

/-- Clears the other half of the wide character that has a half at the column. -/
def clearPartner (r : Row) (col : Nat) : Row :=
  if (r.cell col).wide then r.setCell (col + 1) Cell.blank
  else if (r.cell col).continues then r.setCell (col - 1) Cell.blank
  else r

/-- Clears the cell at a column. The row no longer wraps if its last character was there. -/
def erase (r : Row) (col : Nat) : Row :=
  let last := r.cells.size - (if (r.cell col).wide then 2 else 1)
  let r := (r.clearPartner col).setCell col Cell.blank
  { r with wrapped := r.wrapped && col ≠ last }

def eraseFrom (r : Row) (col : Nat) : (count : Nat) → Row
  | 0 => r
  | n + 1 => (r.erase col).eraseFrom (col + 1) n

/-- Makes room for `count` empty cells at a column; what leaves the row is lost. A wide character
that is cut by this keeps the new cell as its second half. -/
def insert (r : Row) (col count : Nat) : Row :=
  let cols := r.cells.size
  let room := min count cols
  if room = 0 then { r with wrapped := false }
  else
    let cut := (r.cell col).continues
    let r := if cut then r.modifyCell col ({ · with continues := false }) else r
    let gap : List Cell := { continues := cut } :: List.replicate (room - 1) Cell.blank
    let cells := r.cells.toList.take col ++ gap ++ r.cells.toList.drop col
    let r : Row := ⟨(cells.take cols).toArray, false⟩
    if (r.cell (cols - 1)).wide then r.setCell (cols - 1) Cell.blank else r

/-- Takes out the cell at a column; an empty one comes in at the end. -/
def delete (r : Row) (col : Nat) : Row :=
  let r := r.clearPartner col
  let cells := r.cells.toList
  ⟨(cells.take col ++ cells.drop (col + 1) ++ [Cell.blank]).toArray, false⟩

def deleteFrom (r : Row) (col : Nat) : (count : Nat) → Row
  | 0 => r
  | n + 1 => (r.delete col).deleteFrom col n

/-- The text of cells, spaces standing for empty ones; a cell behind a wide character adds
nothing. -/
def textOf : List Cell → List Char
  | [] => []
  | c :: rest =>
    let own := if c.filled then c.text else [' ']
    if c.wide then
      match rest with
      | [] => own
      | _ :: rest => own ++ textOf rest
    else own ++ textOf rest

def text (r : Row) : String := Text.trimEnd (String.ofList (textOf r.cells.toList))

end Row

end HistoryAudit.Screen
