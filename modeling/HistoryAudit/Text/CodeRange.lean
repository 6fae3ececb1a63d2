/-
  HistoryAudit.Text.CodeRange

  Sets of code points as sorted, disjoint ranges. The data of a character
  property is written as text, `41-5a 61-7a aa`, in hexadecimal; `ofHex` reads
  it once, and membership is a binary search.
-/
import HistoryAudit.Text.Digits

namespace HistoryAudit.Text

/-- Code points from `lo` to `hi`, both included. -/
structure CodeRange where
  lo : Nat
  hi : Nat
  deriving DecidableEq, Inhabited, Repr

namespace CodeRange

/-- A range under construction: its first bound once `-` was met, and the digits so far. -/
structure Partial where
  done : Array CodeRange
  lo? : Option Nat
  digits? : Option Nat

def Partial.close (p : Partial) : Partial :=
  match p.digits? with
  | none => p
  | some d => ⟨p.done.push ⟨p.lo?.getD d, d⟩, none, none⟩

def Partial.take (p : Partial) (c : Char) : Partial :=
  match hexDigit? c with
  | some d => { p with digits? := some (p.digits?.getD 0 * 16 + d) }
  | none => if c = '-' then { p with lo? := p.digits?, digits? := none } else p.close

/-- Reads ranges written in hexadecimal, separated by blanks. -/
def ofHex (text : String) : Array CodeRange :=
  (text.toList.foldl Partial.take ⟨#[], none, none⟩).close.done

/-- Does one of the ranges between the indices `first` and `last` (excluded) hold `n`? -/
def search (table : Array CodeRange) (n : Nat) : (fuel first last : Nat) → Bool
  | 0, _, _ => false
  | fuel + 1, first, last =>
    if first < last then
      let middle := (first + last) / 2
      let range := table.getD middle ⟨0, 0⟩
      if n < range.lo then search table n fuel first middle
      else if range.hi < n then search table n fuel (middle + 1) last
      else true
    else false

/-- Is `n` in one of the sorted ranges? The span halves at each step, so the size bounds them. -/
def holds (table : Array CodeRange) (n : Nat) : Bool :=
  search table n (table.size + 1) 0 table.size

end CodeRange

end HistoryAudit.Text
