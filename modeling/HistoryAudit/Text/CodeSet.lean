/-
  HistoryAudit.Text.CodeSet

  The algebra of sets of code points. A set is a list of ranges, sorted and
  apart from each other, so that equal sets are equal lists.
-/
import HistoryAudit.Text.CodeRange

namespace HistoryAudit.Text

/-- Sorted ranges with a gap between any two. -/
abbrev CodeSet := List CodeRange

namespace CodeSet

/-- Joins ranges that are sorted by their start and may meet or overlap. -/
def join : List CodeRange → CodeSet
  | [] => []
  | r :: rest => go r rest
where
  /-- The same behind the open range `r`. -/
  go (r : CodeRange) : List CodeRange → CodeSet
    | [] => [r]
    | s :: rest => if s.lo ≤ r.hi + 1 then go ⟨r.lo, max r.hi s.hi⟩ rest else r :: go s rest

def ofRanges (ranges : List CodeRange) : CodeSet :=
  join (ranges.mergeSort fun a b => a.lo ≤ b.lo)

def singleton (n : Nat) : CodeSet := [⟨n, n⟩]

def union (a b : CodeSet) : CodeSet := ofRanges (a ++ b)

/-- The gaps from `start` to `top`. -/
def gaps (top start : Nat) : CodeSet → CodeSet
  | [] => if start ≤ top then [⟨start, top⟩] else []
  | r :: rest =>
    if start < r.lo then ⟨start, r.lo - 1⟩ :: gaps top (r.hi + 1) rest
    else gaps top (r.hi + 1) rest

/-- What is not in the set, up to `top`. -/
def complement (top : Nat) (s : CodeSet) : CodeSet := gaps top 0 s

def lastCode : Nat := 0x10ffff

def inter (a b : CodeSet) : CodeSet :=
  complement lastCode (union (complement lastCode a) (complement lastCode b))

def diff (a b : CodeSet) : CodeSet := inter a (complement lastCode b)

def symmDiff (a b : CodeSet) : CodeSet := diff (union a b) (inter a b)

/-- The code points of characters: all but the surrogates. -/
def characters : CodeSet := [⟨0, 0xd7ff⟩, ⟨0xe000, lastCode⟩]

def otherCharacters (s : CodeSet) : CodeSet := diff characters s

def holds (s : CodeSet) (n : Nat) : Bool := s.any fun r => r.lo ≤ n && n ≤ r.hi

def ofHex (text : String) : CodeSet := ofRanges (CodeRange.ofHex text).toList

end CodeSet

end HistoryAudit.Text
