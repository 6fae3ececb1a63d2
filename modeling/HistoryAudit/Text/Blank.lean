/-
  HistoryAudit.Text.Blank

  White space as Unicode defines it, and what depends on it: trimming both ends
  of a text, the words of a text, and its physical lines.
-/

namespace HistoryAudit.Text

/-- The property White_Space, which is closed: no later standard adds to it. -/
def isBlank (c : Char) : Bool :=
  let n := c.toNat
  (9 ≤ n && n ≤ 13) || n == 0x20 || n == 0x85 || n == 0xa0 || n == 0x1680 ||
    (0x2000 ≤ n && n ≤ 0x200a) || n == 0x2028 || n == 0x2029 || n == 0x202f || n == 0x205f ||
    n == 0x3000

def dropBlankEnd (cs : List Char) : List Char :=
  (cs.reverse.dropWhile isBlank).reverse

def trimStart (s : String) : String :=
  String.ofList (s.toList.dropWhile isBlank)

def trimEnd (s : String) : String :=
  String.ofList (dropBlankEnd s.toList)

def trim (s : String) : String :=
  String.ofList (dropBlankEnd (s.toList.dropWhile isBlank))

/-- The first run of characters that are not blank. -/
def firstWord? (s : String) : Option String :=
  match (s.toList.dropWhile isBlank).takeWhile (!isBlank ·) with
  | [] => none
  | word => some (String.ofList word)

/-- Splits at every line feed; the piece after the last one is always there. -/
def splitLineFeeds : List Char → List (List Char)
  | [] => [[]]
  | c :: cs =>
    if c = '\n' then [] :: splitLineFeeds cs
    else
      match splitLineFeeds cs with
      | [] => [[c]]
      | line :: rest => (c :: line) :: rest

/-- Drops the empty piece that follows a final line feed. -/
def dropEmptyLast : List (List Char) → List (List Char)
  | [] => []
  | [line] => if line = [] then [] else [line]
  | line :: rest => line :: dropEmptyLast rest

/-- The physical lines: the pieces between line feeds. A text that ends in a line feed has no
further, empty line. -/
def lines (s : String) : List String :=
  (dropEmptyLast (splitLineFeeds s.toList)).map String.ofList

def startsWith [BEq α] : (needle hay : List α) → Bool
  | [], _ => true
  | _ :: _, [] => false
  | x :: xs, y :: ys => x == y && startsWith xs ys

/-- The index at which `needle` occurs first. -/
def findFirst? [BEq α] (needle : List α) : (hay : List α) → Option Nat
  | [] => if needle.isEmpty then some 0 else none
  | y :: ys =>
    if startsWith needle (y :: ys) then some 0
    else (findFirst? needle ys).map (· + 1)

def contains (hay needle : String) : Bool :=
  (findFirst? needle.toList hay.toList).isSome

end HistoryAudit.Text
