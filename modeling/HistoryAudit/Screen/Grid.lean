/-
  HistoryAudit.Screen.Grid

  The rows of a screen and the cursor. Between the two margins rows scroll: the
  cursor that leaves them moves the rows instead. A cursor behind the last
  column waits there until the next character opens a new row.
-/
import HistoryAudit.Screen.Row
import HistoryAudit.Screen.Snapshot

namespace HistoryAudit.Screen

/-- Rows with a cursor. -/
structure Grid where
  size : Size
  rows : Array Row
  cursor : Place := {}
  saved : Place := {}
  /-- The first and the last row that scroll. -/
  top : Nat := 0
  bottom : Nat
  /-- Do rows count from the first that scrolls? -/
  origin : Bool := false
  savedOrigin : Bool := false

namespace Grid

def blank (size : Size) : Grid where
  size := size
  rows := Array.replicate size.rows (Row.blank size.cols)
  bottom := size.rows - 1

def currentRow (g : Grid) : Row := g.rows.getD g.cursor.row (Row.blank g.size.cols)

def cell (g : Grid) (p : Place) : Cell := (g.rows.getD p.row (Row.blank g.size.cols)).cell p.col

def modifyRow (g : Grid) (row : Nat) (f : Row → Row) : Grid :=
  { g with rows := g.rows.modify row f }

def modifyCurrent (g : Grid) (f : Row → Row) : Grid := g.modifyRow g.cursor.row f

def modifyCell (g : Grid) (p : Place) (f : Cell → Cell) : Grid :=
  g.modifyRow p.row (·.modifyCell p.col f)

/-- Says of a row whether its text goes on in the next one. -/
def setWrapped (g : Grid) (row : Nat) (wrapped : Bool) : Grid :=
  g.modifyRow row ({ · with wrapped := wrapped })

/-! ## Scrolling -/

def removeRow (rows : Array Row) (i : Nat) : Array Row :=
  (rows.toList.take i ++ rows.toList.drop (i + 1)).toArray

def insertRow (g : Grid) (rows : Array Row) (i : Nat) : Array Row :=
  (rows.toList.take i ++ Row.blank g.size.cols :: rows.toList.drop i).toArray

/-- Takes out the row at `row`, an empty one coming in at the bottom margin, so many times. -/
def pullUp (g : Grid) (row : Nat) : (count : Nat) → Grid
  | 0 => g
  | n + 1 =>
    pullUp { g with rows := removeRow (g.insertRow g.rows (g.bottom + 1)) row } row n

/-- Puts in an empty row at `row`, the one at the bottom margin going out, so many times. -/
def pushDown (g : Grid) (row : Nat) : (count : Nat) → Grid
  | 0 => g
  | n + 1 =>
    let g := { g with rows := g.insertRow (removeRow g.rows g.bottom) row }
    pushDown (g.setWrapped g.bottom false) row n

def scrollUp (g : Grid) (count : Nat) : Grid := g.pullUp g.top (min count (g.size.rows - g.top))

def scrollDown (g : Grid) (count : Nat) : Grid := g.pushDown g.top count

def insertLines (g : Grid) (count : Nat) : Grid := g.pushDown g.cursor.row count

def deleteLines (g : Grid) (count : Nat) : Grid :=
  g.pullUp g.cursor.row (min count (g.size.rows - g.cursor.row))

/-! ## The cursor -/

def inMargins (g : Grid) : Bool := g.top ≤ g.cursor.row && g.cursor.row ≤ g.bottom

def setRow (g : Grid) (row : Nat) : Grid := { g with cursor := { g.cursor with row := row } }

def setCol (g : Grid) (col : Nat) : Grid := { g with cursor := { g.cursor with col := col } }

def clampCol (g : Grid) : Grid := g.setCol (min g.cursor.col (g.size.cols - 1))

def lowest (g : Grid) (within : Bool) : Nat := if within then g.bottom else g.size.rows - 1

/-- Moves the cursor up to the last row for it, and says how far. -/
def clampBottom (g : Grid) (within : Bool) : Nat × Grid :=
  let limit := g.lowest within
  if g.cursor.row > limit then (g.cursor.row - limit, g.setRow limit) else (0, g)

/-- Moves the cursor down to the first row for it, and says how far. -/
def clampTop (g : Grid) (within : Bool) : Nat × Grid :=
  if within && g.cursor.row < g.top then (g.top - g.cursor.row, g.setRow g.top) else (0, g)

/-- Moves the cursor to a place of the screen, or of the part that scrolls. -/
def moveTo (g : Grid) (p : Place) : Grid :=
  let row := if g.origin then p.row + g.top else p.row
  let g := { g with cursor := ⟨row, p.col⟩ }
  let g := (g.clampTop g.origin).2
  let g := (g.clampBottom g.origin).2
  g.clampCol

/-- Moves the cursor down; it stays on the screen, or between the margins. -/
def down (g : Grid) (count : Nat) : Grid :=
  ((g.setRow (g.cursor.row + count)).clampBottom g.inMargins).2

def up (g : Grid) (count : Nat) : Grid :=
  ((g.setRow (g.cursor.row - count)).clampTop g.inMargins).2

/-- Moves the cursor to the next row, scrolling if it is at the bottom margin, and says how many
rows were scrolled. -/
def lineFeed (g : Grid) : Nat × Grid :=
  let within := g.inMargins
  let (lines, g) := (g.setRow (g.cursor.row + 1)).clampBottom within
  if within then (lines, g.scrollUp lines) else (0, g)

/-- Moves the cursor to the row before, scrolling if it is at the top. -/
def reverseLineFeed (g : Grid) : Grid :=
  let within := g.inMargins
  let beyond := if g.cursor.row = 0 then 1 else 0
  let (lines, g) := (g.setRow (g.cursor.row - 1)).clampTop within
  g.scrollDown (lines + beyond)

/-- Moves the cursor to the next column that eight divides. -/
def tab (g : Grid) : Grid :=
  (g.setCol (g.cursor.col - g.cursor.col % 8 + 8)).clampCol

/-- Opens a new row if `width` columns are not left in this one. -/
def wrap (g : Grid) (width : Nat) (joined : Bool) : Grid :=
  if g.cursor.col > g.size.cols - width then
    let before := g.cursor.row
    let (scrolled, g) := (g.setCol 0).lineFeed
    let before := before - scrolled
    g.setWrapped before (joined && before + 1 == g.cursor.row)
  else g

/-- Sets the margins, or takes them away if they are not apart, and moves the cursor to the first
row that scrolls. -/
def setMargins (g : Grid) (top bottom : Nat) : Grid :=
  let last := g.size.rows - 1
  let bottom := min bottom last
  let (top, bottom) := if top < bottom then (top, bottom) else (0, last)
  { g with top, bottom, cursor := ⟨top, 0⟩ }

/-- Says whether rows count from the first that scrolls, and moves the cursor to the first
place. -/
def setOrigin (g : Grid) (origin : Bool) : Grid := { g with origin }.moveTo {}

def save (g : Grid) : Grid := { g with saved := g.cursor, savedOrigin := g.origin }

def restore (g : Grid) : Grid := { g with cursor := g.saved, origin := g.savedOrigin }

/-! ## Erasing -/

def clearRows (g : Grid) (row : Nat) : (count : Nat) → Grid
  | 0 => g
  | n + 1 => clearRows (g.modifyRow row fun _ => Row.blank g.size.cols) (row + 1) n

def eraseRowAfter (g : Grid) : Grid :=
  g.modifyCurrent (·.eraseFrom g.cursor.col (g.size.cols - g.cursor.col))

def eraseRowBefore (g : Grid) : Grid :=
  g.modifyCurrent (·.eraseFrom 0 (min g.cursor.col (g.size.cols - 1) + 1))

def eraseRow (g : Grid) : Grid := g.clearRows g.cursor.row 1

def eraseAfter (g : Grid) : Grid :=
  (g.clearRows (g.cursor.row + 1) (g.size.rows - (g.cursor.row + 1))).eraseRowAfter

def eraseBefore (g : Grid) : Grid := (g.clearRows 0 g.cursor.row).eraseRowBefore

def eraseAll (g : Grid) : Grid := g.clearRows 0 g.size.rows

def eraseCells (g : Grid) (count : Nat) : Grid :=
  g.modifyCurrent (·.eraseFrom g.cursor.col (min count (g.size.cols - g.cursor.col)))

def insertCells (g : Grid) (count : Nat) : Grid := g.modifyCurrent (·.insert g.cursor.col count)

def deleteCells (g : Grid) (count : Nat) : Grid :=
  g.modifyCurrent (·.deleteFrom g.cursor.col (min count (g.size.cols - g.cursor.col)))

/-! ## Writing -/

/-- Joins a character to the cell before the column, or to the wide character that ends there. -/
def joinBefore (g : Grid) (row col : Nat) (c : Char) : Grid :=
  if (g.cell ⟨row, col - 1⟩).continues then g.modifyCell ⟨row, col - 2⟩ (·.join c)
  else g.modifyCell ⟨row, col - 1⟩ (·.join c)

/-- Writes a character without a width: it joins the one before the cursor. -/
def writeJoining (g : Grid) (c : Char) : Grid :=
  let p := g.cursor
  if p.col > 0 then g.joinBefore p.row p.col c
  else if p.row > 0 && (g.rows.getD (p.row - 1) (Row.blank 0)).wrapped then
    g.joinBefore (p.row - 1) g.size.cols c
  else g

/-- Writes the second half of a wide character. What is overwritten may be wide itself. -/
def writeSecondHalf (g : Grid) : Grid :=
  let p := g.cursor
  let g :=
    if (g.cell p).wide then
      let g := g.modifyCell ⟨p.row, p.col + 1⟩ fun _ => .blank
      if p.col + 1 = g.size.cols - 1 then g.setWrapped p.row false else g
    else g
  (g.modifyCell p fun _ => { continues := true }).setCol (p.col + 1)

def writeWide (g : Grid) (width : Nat) (c : Char) : Grid :=
  let p := g.cursor
  let g := if (g.cell p).continues then g.modifyCell ⟨p.row, p.col - 1⟩ fun _ => .blank else g
  let g := if (g.cell p).wide then g.modifyCell ⟨p.row, p.col + 1⟩ fun _ => .ofChar ' ' else g
  let g := (g.modifyCell p fun _ => .ofChar c).setCol (p.col + 1)
  if width > 1 then g.writeSecondHalf else g

/-- Writes a character. Text goes on in the next row only from a last column that was written. -/
def write (g : Grid) (c : Char) : Grid :=
  if (width? c).isNone && c.toNat < 256 then g
  else
    let width := (width? c).getD 1
    let last := g.cell ⟨g.cursor.row, g.size.cols - 1⟩
    let g := g.wrap width (last.filled || last.continues)
    if width = 0 then g.writeJoining c else g.writeWide width c

def snapshot (g : Grid) : Snapshot where
  rows := g.size.rows
  cols := g.size.cols
  cursor := g.cursor
  lines := g.rows.toList.map Row.text

end Grid

end HistoryAudit.Screen
