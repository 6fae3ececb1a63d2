/-
  HistoryAudit.Yaml.Cursor

  A place in a YAML text, and the classes of characters that its rules speak of.
  Columns count characters from zero, and five characters end a line.
-/

namespace HistoryAudit.Yaml

def isAllowed (c : Char) : Bool :=
  let n := c.toNat
  n == 9 || n == 10 || n == 13 || (0x20 ≤ n && n ≤ 0x7e) || n == 0x85 ||
    (0xa0 ≤ n && n ≤ 0xd7ff) || (0xe000 ≤ n && n ≤ 0xfffd) || 0x10000 ≤ n

def isBreak (c : Char) : Bool :=
  c == '\n' || c == '\r' || c == '\u0085' || c == '\u2028' || c == '\u2029'

def isGap (c : Char) : Bool := c == ' ' || c == '\t'

def isNameChar (c : Char) : Bool := c.isAlphanum || c == '_' || c == '-'

/-- Is the text at its end, or does it go on with a gap or a line end? -/
def endsWord : Option Char → Bool
  | none => true
  | some c => isGap c || isBreak c

structure Cursor where
  rest : List Char
  index : Nat := 0
  line : Nat := 0
  column : Nat := 0

namespace Cursor

def char? (c : Cursor) : Option Char := c.rest.head?

def peek? (c : Cursor) (n : Nat) : Option Char := (c.rest.drop n).head?

def at? (c : Cursor) (x : Char) : Bool := c.char? == some x

def has (c : Cursor) (test : Char → Bool) : Bool := c.char?.any test

def skip (c : Cursor) (n : Nat) : Cursor :=
  { c with rest := c.rest.drop n, index := c.index + n, column := c.column + n }

/-- The place behind all characters that pass the test, none of which ends a line. -/
def skipWhile (c : Cursor) (test : Char → Bool) : Cursor :=
  c.skip (c.rest.takeWhile test).length

/-- The text of the line end here, and the place behind it; nothing if there is none. A line end of
two characters and the usual ones are read as a line feed. -/
def lineEnd (c : Cursor) : List Char × Cursor :=
  let below (n : Nat) : Cursor := ⟨c.rest.drop n, c.index + n, c.line + 1, 0⟩
  match c.rest with
  | '\r' :: '\n' :: _ => (['\n'], below 2)
  | x :: _ =>
    if x = '\u2028' ∨ x = '\u2029' then ([x], below 1)
    else if isBreak x then (['\n'], below 1)
    else ([], c)
  | [] => ([], c)

/-- Does a line begin here with a mark between documents? -/
def atDocumentMark (c : Cursor) : Bool :=
  c.column == 0 && endsWord (c.peek? 3) &&
    (c.rest.take 3 == ['-', '-', '-'] || c.rest.take 3 == ['.', '.', '.'])

end Cursor

end HistoryAudit.Yaml
