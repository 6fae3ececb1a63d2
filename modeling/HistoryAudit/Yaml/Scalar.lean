/-
  HistoryAudit.Yaml.Scalar

  The text of scalars: plain, quoted, and in a block of lines of their own. A
  single line end between words is read as a space, and of several all but the
  first are kept.
-/
import HistoryAudit.Text.Digits
import HistoryAudit.Yaml.Cursor

namespace HistoryAudit.Yaml

/-- What lies between two words: blanks within a line, or line ends. -/
inductive Gap where
  | blanks (text : List Char)
  | breaks (first more : List Char)

namespace Gap

def none : Gap := .blanks []

def breaksLine : Gap → Bool
  | .blanks _ => false
  | .breaks .. => true

def text : Gap → List Char
  | .blanks text => text
  | .breaks first more =>
    if first = ['\n'] then (if more.isEmpty then [' '] else more) else first ++ more

/-- Reads blanks and line ends behind the gap so far. Within a line that is not the first, blanks
mean nothing, and before the column `indent` a tab is refused. `fuel` is more than the characters
left. -/
def read (indent : Nat) : (fuel : Nat) → Gap → Cursor → Option (Gap × Cursor)
  | 0, g, c => some (g, c)
  | fuel + 1, g, c =>
    match c.char? with
    | Option.none => some (g, c)
    | some x =>
      if isGap x then
        match g with
        | .blanks text => read indent fuel (.blanks (text ++ [x])) (c.skip 1)
        | .breaks .. =>
          if x = '\t' ∧ c.column < indent then Option.none
          else read indent fuel g (c.skip 1)
      else if isBreak x then
        let (text, c) := c.lineEnd
        match g with
        | .blanks _ => read indent fuel (.breaks text []) c
        | .breaks first more => read indent fuel (.breaks first (more ++ text)) c
      else some (g, c)

end Gap

/-! ## Plain scalars -/

/-- Does a plain word end before these characters? No answer if they are refused. -/
def plainEnds? (flow : Bool) : List Char → Option Bool
  | [] => some true
  | x :: rest =>
    if isGap x || isBreak x then some true
    else if flow && x == ':' && rest.head?.any (",?[]\x7b\x7d".toList.contains ·) then none
    else
      some ((x == ':' && endsWord rest.head?) || (flow && ",[]\x7b\x7d".toList.contains x))

def plainWord? (flow : Bool) : List Char → Option Nat
  | [] => some 0
  | x :: rest =>
    match plainEnds? flow (x :: rest) with
    | none => none
    | some true => some 0
    | some false => (plainWord? flow rest).map (· + 1)

/-- A plain scalar behind the text and the gap so far: its text, the gap behind it, and the place
behind that. `fuel` is more than the characters left. -/
def plainFrom (flow : Bool) (indent : Nat) :
    (fuel : Nat) → (text : List Char) → Gap → Cursor → Option (List Char × Gap × Cursor)
  | 0, text, g, c => some (text, g, c)
  | fuel + 1, text, g, c =>
    if c.atDocumentMark || c.at? '#' then some (text, g, c)
    else
      match plainWord? flow c.rest with
      | none => none
      | some 0 => some (text, g, c)
      | some (n + 1) =>
        let text := text ++ g.text ++ c.rest.take (n + 1)
        let c := c.skip (n + 1)
        -- No gap follows: an indicator ended the word.
        if !c.has (fun x => isGap x || isBreak x) then some (text, .none, c)
        else
          match Gap.read indent c.rest.length .none c with
          | none => none
          | some (g, c) =>
            if !flow && c.column < indent then some (text, g, c)
            else plainFrom flow indent fuel text g c

/-! ## Quoted scalars -/

def escapes : List (Char × Char) :=
  [('0', '\x00'), ('a', '\x07'), ('b', '\x08'), ('t', '\t'), ('\t', '\t'), ('n', '\n'),
    ('v', '\x0b'), ('f', '\x0c'), ('r', '\r'), ('e', '\x1b'), (' ', ' '), ('"', '"'), ('/', '/'),
    ('\\', '\\'), ('N', '\u0085'), ('_', '\u00a0'), ('L', '\u2028'), ('P', '\u2029')]

/-- How many digits follow a letter that announces a number. -/
def digitCount? : Char → Option Nat
  | 'x' => some 2
  | 'u' => some 4
  | 'U' => some 8
  | _ => none

/-- The character that stands behind a backslash, and the length of its written form. -/
def escaped? : List Char → Option (Char × Nat)
  | [] => none
  | x :: rest =>
    match digitCount? x with
    | none => (escapes.find? (·.1 == x)).map fun e => (e.2, 1)
    | some count =>
      if rest.length < count then none
      else
        (Text.number? 16 (rest.take count)).bind fun n =>
          if h : n.isValidChar then some (Char.ofNatAux n h, count + 1) else none

/-- The word at the front of a quoted scalar: its text and the place behind it. A line end behind a
backslash means nothing, which the truth value tells. `fuel` is more than the characters left. -/
def quotedWord (single : Bool) :
    (fuel : Nat) → (text : List Char) → Cursor → Option (List Char × Bool × Cursor)
  | 0, text, c => some (text, false, c)
  | fuel + 1, text, c =>
    match c.rest with
    | [] => some (text, false, c)
    | x :: rest =>
      if isGap x || isBreak x then some (text, false, c)
      else if single then
        if x = '\'' then
          if rest.head? = some '\'' then quotedWord single fuel (text ++ ['\'']) (c.skip 2)
          else some (text, false, c)
        else quotedWord single fuel (text ++ [x]) (c.skip 1)
      else if x = '"' then some (text, false, c)
      else if x = '\\' then
        if rest.head?.any isBreak then some (text, true, (c.skip 1).lineEnd.2)
        else
          match escaped? rest with
          | none => none
          | some (y, n) => quotedWord single fuel (text ++ [y]) (c.skip (n + 1))
      else quotedWord single fuel (text ++ [x]) (c.skip 1)

/-- A quoted scalar from behind its opening quote: its text, and the place behind the closing one.
`fuel` is more than the characters left. -/
def quotedFrom (single : Bool) : (fuel : Nat) → (text : List Char) → Cursor →
    Option (List Char × Cursor)
  | 0, _, _ => none
  | fuel + 1, text, c =>
    if c.atDocumentMark || c.rest.isEmpty then none
    else
      match quotedWord single (c.rest.length + 1) text c with
      | none => none
      | some (text, cut, c) =>
        if c.at? (if single then '\'' else '"') then some (text, c.skip 1)
        else
          match Gap.read 0 (c.rest.length + 1) (if cut then .breaks [] [] else .none) c with
          | none => none
          | some (g, c) => quotedFrom single fuel (text ++ g.text) c

/-! ## Block scalars -/

/-- What becomes of the line ends behind a block. -/
inductive Chomp where
  | strip
  | clip
  | keep
  deriving DecidableEq

/-- The head of a block: the chomping and the indentation that it states. -/
def blockHead? : List Char → Option (Chomp × Nat × Nat)
  | '+' :: d :: _ => some (number .keep d)
  | '-' :: d :: _ => some (number .strip d)
  | ['+'] => some (.keep, 0, 1)
  | ['-'] => some (.strip, 0, 1)
  | d :: '+' :: _ => if d.isDigit then some (.keep, d.toNat - 48, 2) else some (.clip, 0, 0)
  | d :: '-' :: _ => if d.isDigit then some (.strip, d.toNat - 48, 2) else some (.clip, 0, 0)
  | d :: _ => if d.isDigit then some (.clip, d.toNat - 48, 1) else some (.clip, 0, 0)
  | [] => some (.clip, 0, 0)
where
  /-- The same with a sign before the number. -/
  number (chomp : Chomp) (d : Char) : Chomp × Nat × Nat :=
    if d.isDigit then (chomp, d.toNat - 48, 2) else (chomp, 0, 1)

/-- Reads empty lines and the indentation behind them: the text of the line ends, the largest
column, and the place. An indentation of zero is not known yet. A tab in the indentation is
refused. -/
def blockBreaks (indent : Nat) :
    (fuel : Nat) → (text : List Char) → (widest : Nat) → Cursor → Option (List Char × Nat × Cursor)
  | 0, text, widest, c => some (text, widest, c)
  | fuel + 1, text, widest, c =>
    let spaces := (c.rest.takeWhile (· == ' ')).length
    let c := c.skip (if indent = 0 then spaces else min spaces (indent - c.column))
    let widest := max widest c.column
    if (indent = 0 ∨ c.column < indent) ∧ c.at? '\t' then none
    else if !c.has isBreak then some (text, widest, c)
    else
      let (lineEnd, c) := c.lineEnd
      blockBreaks indent fuel (text ++ lineEnd) widest c

/-- The lines of a block that is indented by `indent`. `text` is what was read, `last` the line end
behind it, `empty` the empty lines behind that; `wasBlank` tells whether the last line began with a
blank. Lines that do not are folded. -/
def blockLines (literal : Bool) (chomp : Chomp) (indent : Nat) :
    (fuel : Nat) → (text last empty : List Char) → (wasBlank : Bool) → Cursor →
    Option (List Char × Cursor)
  | 0, _, _, _, _, _ => none
  | fuel + 1, text, last, empty, wasBlank, c =>
    if c.column = indent ∧ !c.rest.isEmpty then
      let isBlank := c.has isGap
      let joint :=
        if !literal && last.head? == some '\n' && !wasBlank && !isBlank then
          (if empty.isEmpty then [' '] else [])
        else last
      let line := c.rest.takeWhile (!isBreak ·)
      let (last, c) := (c.skip line.length).lineEnd
      match blockBreaks indent (c.rest.length + 1) [] 0 c with
      | none => none
      | some (breaks, _, c) =>
        blockLines literal chomp indent fuel (text ++ joint ++ empty ++ line) last breaks isBlank c
    else
      some (text ++ (if chomp = .strip then [] else last) ++ (if chomp = .keep then empty else []),
        c)

/-- A block scalar from behind its mark; `parent` is the indentation around it, and -1 outside all
collections. -/
def blockFrom (literal : Bool) (parent : Int) (c : Cursor) : Option (List Char × Cursor) :=
  match blockHead? c.rest with
  | none => none
  | some (chomp, stated, length) =>
    let zero := (c.rest.take length).contains '0'
    let c := (c.skip length).skipWhile isGap
    let c := if c.at? '#' then c.skipWhile (!isBreak ·) else c
    if zero ∨ !(c.rest.isEmpty || c.has isBreak) then none
    else
      let c := c.lineEnd.2
      let known := if stated = 0 then 0 else (max parent 0).toNat + stated
      match blockBreaks known (c.rest.length + 1) [] 0 c with
      | none => none
      | some (breaks, widest, c) =>
        -- The first line that is not empty tells an indentation that is not stated.
        let indent := if known = 0 then max (max widest (parent + 1).toNat) 1 else known
        blockLines literal chomp indent (c.rest.length + 2) [] [] breaks false c

end HistoryAudit.Yaml
