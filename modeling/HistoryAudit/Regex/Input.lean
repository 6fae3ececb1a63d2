/-
  HistoryAudit.Regex.Input

  A pattern under reading: what is left of it, the place, and what was seen so
  far. With the flag `x` blanks and comments mean nothing between items.
-/
import HistoryAudit.Regex.Syntax
import HistoryAudit.Text.Blank

namespace HistoryAudit.Regex

/-- A pattern under reading. -/
structure Input where
  rest : List Char
  place : Place := {}
  /-- Do blanks and comments mean nothing? -/
  ignoreSpace : Bool := false
  names : List (String × Span) := []

abbrev Reader := StateT Input (Except Fault)

/-- Skips blanks, and comments from `#` to the end of the line. -/
def skipBlank (inComment : Bool) (p : Place) : List Char → Place × List Char
  | [] => (p, [])
  | c :: cs =>
    if inComment then skipBlank (c ≠ '\n') (p.next c) cs
    else if Text.isBlank c then skipBlank false (p.next c) cs
    else if c = '#' then skipBlank true (p.next c) cs
    else (p, c :: cs)

namespace Reader

def place : Reader Place := return (← get).place

def char? : Reader (Option Char) := return (← get).rest.head?

def atEnd : Reader Bool := return (← get).rest.isEmpty

def at? (c : Char) : Reader Bool := return (← get).rest.head? == some c

/-- The part without characters at the current place. -/
def noSpan : Reader Span := return ⟨(← get).place, (← get).place⟩

def charSpan : Reader Span := do
  let s ← get
  return ⟨s.place, s.place.next (s.rest.headD 'a')⟩

def spanFrom (start : Place) : Reader Span := return ⟨start, (← get).place⟩

def refuse (cause : Cause) (span : Span) (earlier? : Option Span := none) : Reader α :=
  throw ⟨cause, span, earlier?⟩

def bump : Reader Unit :=
  modify fun s =>
    match s.rest with
    | [] => s
    | c :: cs => { s with rest := cs, place := s.place.next c }

/-- Steps over blanks and comments, if they mean nothing. -/
def bumpSpace : Reader Unit :=
  modify fun s =>
    if s.ignoreSpace then
      let (place, rest) := skipBlank false s.place s.rest
      { s with rest := rest, place := place }
    else s

/-- Steps over the current character and what means nothing behind it. Is there more? -/
def next : Reader Bool := do
  bump
  bumpSpace
  return !(← atEnd)

/-- Steps over a text, if it is here. -/
def bumpIf (text : String) : Reader Bool := do
  if Text.startsWith text.toList (← get).rest then
    text.toList.forM fun _ => bump
    return true
  return false

def peek? : Reader (Option Char) := return ((← get).rest.drop 1).head?

/-- The character behind the current one and behind blanks that mean nothing. Of a comment only
its mark is seen through. -/
def peekSpace? : Reader (Option Char) := do
  let s ← get
  if !s.ignoreSpace then peek?
  else
    match (s.rest.drop 1).dropWhile Text.isBlank with
    | '#' :: rest => return (rest.dropWhile Text.isBlank).head?
    | rest => return rest.head?

/-- Reads while the characters pass the test, with the step `step` after each. -/
def takeWhile (test : Char → Bool) (step : Reader Unit) : Reader (List Char) := do
  go ((← get).rest.length)
where
  /-- The same; `fuel` is at least the number of characters. -/
  go : Nat → Reader (List Char)
    | 0 => return []
    | fuel + 1 => do
      match ← char? with
      | some c =>
        if test c then do
          step
          return c :: (← go fuel)
        else return []
      | none => return []

end Reader

end HistoryAudit.Regex
