/-
  HistoryAudit.Yaml.Lexer

  The tokens of a text. The mark of a key stands before it only seldom: the colon
  behind it tells, so each place where a key may begin is remembered until then.
-/
import HistoryAudit.Yaml.Scalar
import HistoryAudit.Yaml.Token

namespace HistoryAudit.Yaml

/-- A place where a key may have begun. -/
structure KeyPlace where
  required : Bool
  token : Nat
  cursor : Cursor

/-- Is the place too far behind? A key without a mark ends on its line, and is of 1024 characters
at most. -/
def KeyPlace.isStale (place : KeyPlace) (c : Cursor) : Bool :=
  place.cursor.line < c.line || place.cursor.index + 1024 < c.index

structure Lexer where
  cursor : Cursor
  tokens : List Token := []
  /-- The columns of the collections that the indentation marks, the innermost first. -/
  indents : List Nat := []
  /-- May a key without a mark begin here? -/
  keyAllowed : Bool := true
  /-- The place where the next key may have begun, within the innermost brackets first. -/
  keys : List (Option KeyPlace) := [none]

namespace Lexer

def inFlow (s : Lexer) : Bool := 1 < s.keys.length

def indent (s : Lexer) : Int :=
  match s.indents with
  | [] => -1
  | column :: _ => column

def emit (s : Lexer) (t : Token) : Lexer := { s with tokens := t :: s.tokens }

/-- Adds a token that so many others precede. -/
def insert (s : Lexer) (number : Nat) (t : Token) : Lexer :=
  { s with tokens := s.tokens.insertIdx (s.tokens.length - number) t }

/-- Opens a collection at a column that is further in than the one around it. Its token has so many
others before it. -/
def roll (s : Lexer) (column number : Nat) (t : Token) : Lexer :=
  if !s.inFlow && s.indent < column then
    { s.insert number t with indents := column :: s.indents }
  else s

/-- Closes the collections that are further in than the column. -/
def unroll (s : Lexer) (column : Int) : Lexer :=
  if s.inFlow then s
  else
    let closed := (s.indents.takeWhile fun (i : Nat) => column < i).length
    { s with
      indents := s.indents.drop closed
      tokens := List.replicate closed .blockEnd ++ s.tokens }

/-- Gives up the place where a key may have begun, unless one must stand there. -/
def dropKey (s : Lexer) : Option Lexer :=
  match s.keys with
  | some place :: _ =>
    if place.required then none else some { s with keys := none :: s.keys.tail }
  | _ => some s

def markKey (s : Lexer) : Option Lexer :=
  if s.keyAllowed then
    let place : KeyPlace :=
      ⟨!s.inFlow && s.indent == (s.cursor.column : Int), s.tokens.length, s.cursor⟩
    s.dropKey.map fun s => { s with keys := some place :: s.keys.tail }
  else some s

def forgetStale (s : Lexer) : Option Lexer :=
  let stale (place : KeyPlace) : Bool := place.isStale s.cursor
  if s.keys.any (·.any fun place => place.required && stale place) then none
  else some { s with keys := s.keys.map (·.filter fun place => !stale place) }

/-- The place of the next token, and whether a line ended before it. `fuel` is more than the
characters left. -/
def nextWord (tabs : Bool) : (fuel : Nat) → (broke : Bool) → Cursor → Bool × Cursor
  | 0, broke, c => (broke, c)
  | fuel + 1, broke, c =>
    let c := if c.index = 0 ∧ c.at? '\ufeff' then c.skip 1 else c
    let c := c.skipWhile fun x => x == ' ' || (x == '\t' && tabs)
    let c := if c.at? '#' then c.skipWhile (!isBreak ·) else c
    if c.has isBreak then nextWord tabs fuel true c.lineEnd.2 else (broke, c)

def toNextWord (s : Lexer) : Lexer :=
  let (broke, c) := nextWord (s.inFlow || !s.keyAllowed) (s.cursor.rest.length + 1) false s.cursor
  { s with cursor := c, keyAllowed := s.keyAllowed || (broke && !s.inFlow) }

/-! ## Tokens of each kind -/

def mark (s : Lexer) (length : Nat) (t : Token) : Lexer :=
  { s.emit t with cursor := s.cursor.skip length }

def directive (s : Lexer) : Option Lexer :=
  (s.unroll (-1)).dropKey.bind fun s =>
    (Directive.scan s.cursor).map fun (directive, c) =>
      { s.emit (.directive directive) with cursor := c, keyAllowed := false }

def documentMark (s : Lexer) (t : Token) : Option Lexer :=
  (s.unroll (-1)).dropKey.map fun s => { s.mark 3 t with keyAllowed := false }

def openBracket (s : Lexer) (t : Token) : Option Lexer :=
  s.markKey.map fun s => { s.mark 1 t with keys := none :: s.keys, keyAllowed := true }

def closeBracket (s : Lexer) (t : Token) : Option Lexer :=
  s.dropKey.map fun s =>
    { s.mark 1 t with keys := if s.inFlow then s.keys.tail else s.keys, keyAllowed := false }

def flowEntry (s : Lexer) : Option Lexer :=
  s.dropKey.map fun s => { s.mark 1 .flowEntry with keyAllowed := true }

/-- Opens a collection at this column if a key or an item may begin here. -/
def rollHere (s : Lexer) (t : Token) : Option Lexer :=
  if s.inFlow then some s
  else if s.keyAllowed then some (s.roll s.cursor.column s.tokens.length t)
  else none

def blockEntry (s : Lexer) : Option Lexer :=
  (s.rollHere .blockSequence).bind fun s => s.dropKey.map fun s =>
    { s.mark 1 .blockEntry with keyAllowed := true }

def key (s : Lexer) : Option Lexer :=
  (s.rollHere .blockMapping).bind fun s => s.dropKey.map fun s =>
    { s.mark 1 .key with keyAllowed := !s.inFlow }

def value (s : Lexer) : Option Lexer :=
  match s.keys with
  | some place :: rest =>
    -- The mapping opens before the key, and both stand before what was read since.
    let s := (s.insert place.token .key).roll place.cursor.column place.token .blockMapping
    some { s.mark 1 .value with keys := none :: rest, keyAllowed := false }
  | _ => (s.rollHere .blockMapping).map fun s => { s.mark 1 .value with keyAllowed := !s.inFlow }

def anchorName? (c : Cursor) : Option (List Char × Cursor) :=
  let name := c.rest.takeWhile isNameChar
  let c := c.skip name.length
  if !name.isEmpty && (endsWord c.char? || c.has ("?:,]\x7d%@`".toList.contains ·)) then
    some (name, c)
  else none

/-- A mark, and what is read from the place it leads to. -/
def word {α : Type} (s : Lexer) (read : Cursor → Option (α × Cursor)) (token : α → Token) :
    Option Lexer :=
  s.markKey.bind fun s => (read s.cursor).map fun (text, c) =>
    { s.emit (token text) with cursor := c, keyAllowed := false }

def block (s : Lexer) (literal : Bool) : Option Lexer :=
  s.dropKey.bind fun s => (blockFrom literal s.indent (s.cursor.skip 1)).map fun (text, c) =>
    { s.emit (.scalar false text) with cursor := c, keyAllowed := true }

def plain (s : Lexer) : Option Lexer :=
  s.markKey.bind fun s =>
    (plainFrom s.inFlow (s.indent + 1).toNat (s.cursor.rest.length + 1) [] .none s.cursor).map
      fun (text, gap, c) =>
        { s.emit (.scalar true text) with cursor := c, keyAllowed := gap.breaksLine }

/-- May a plain scalar begin with these characters? -/
def beginsPlain (flow : Bool) (c : Cursor) : Bool :=
  match c.char? with
  | none => false
  | some x =>
    let next := c.peek? 1
    if x == '-' then !next.any isGap
    else if x == '?' || x == ':' then !flow && !endsWord next
    else !(isGap x || isBreak x || ",[]\x7b\x7d#&*!|>'\"%@`".toList.contains x)

/-- Reads the token that begins with the character `x`, which stands here. -/
def token (s : Lexer) (x : Char) : Option Lexer :=
  let c := s.cursor
  let alone := endsWord (c.peek? 1)
  -- The order matters: a document mark begins like an item or a plain scalar.
  if c.column = 0 ∧ x = '%' then s.directive
  else if c.atDocumentMark then s.documentMark (if x = '-' then .documentStart else .documentEnd)
  else if x = '[' then s.openBracket .flowSequence
  else if x = '\x7b' then s.openBracket .flowMapping
  else if x = ']' then s.closeBracket .flowSequenceEnd
  else if x = '\x7d' then s.closeBracket .flowMappingEnd
  else if x = ',' then s.flowEntry
  else if x = '-' ∧ alone then s.blockEntry
  else if x = '?' ∧ (s.inFlow ∨ alone) then s.key
  else if x = ':' ∧ (s.inFlow ∨ alone) then s.value
  else if x = '*' then s.word (fun c => anchorName? (c.skip 1)) .alias
  else if x = '&' then s.word (fun c => anchorName? (c.skip 1)) .anchor
  else if x = '!' then s.word (WrittenTag.scan s.inFlow) .tag
  else if x = '|' ∧ !s.inFlow then s.block true
  else if x = '>' ∧ !s.inFlow then s.block false
  else if x = '\'' ∨ x = '"' then
    s.word (fun c => quotedFrom (x == '\'') (c.rest.length + 1) [] (c.skip 1)) (.scalar false)
  else if beginsPlain s.inFlow c then s.plain
  else none

/-- Reads all tokens. `fuel` is more than the characters left. -/
def run : (fuel : Nat) → Lexer → Option (List Token)
  | 0, _ => none
  | fuel + 1, s =>
    s.toNextWord.forgetStale.bind fun s =>
      -- A column further out closes what was opened further in.
      let s := s.unroll s.cursor.column
      match s.cursor.char? with
      | none => (s.unroll (-1)).dropKey.map (·.tokens.reverse)
      | some x => (s.token x).bind (run fuel)

end Lexer

/-- The tokens of a text; nothing if it is not made of tokens. -/
def Token.ofText? (text : String) : Option (List Token) :=
  let cs := text.toList
  if cs.all isAllowed then Lexer.run (cs.length + 1) { cursor := ⟨cs, 0, 0, 0⟩ } else none

end HistoryAudit.Yaml
