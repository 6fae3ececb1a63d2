/-
  HistoryAudit.Regex.Escape

  What stands behind a backslash: characters by number, classes with a letter,
  classes by name, assertions, and characters that would mean something else.
-/
import HistoryAudit.Regex.Input
import HistoryAudit.Text.CodeRange

namespace HistoryAudit.Regex

/-- The characters with a meaning of their own in some part of a pattern. -/
def metaCharacters : List Char := "\\.+*?()|[]\x7b\x7d^$#&-~".toList

/-- Does a backslash only take away the meaning of the character? -/
def isEscapable (c : Char) : Bool :=
  metaCharacters.contains c ||
    (c.toNat < 0x80 && !c.isAlphanum && c != '<' && c != '>')

def controlLetter? : Char → Option Char
  | 'a' => some '\x07'
  | 'f' => some '\x0c'
  | 't' => some '\t'
  | 'n' => some '\n'
  | 'r' => some '\r'
  | 'v' => some '\x0b'
  | _ => none

def charOfNumber? (n : Nat) : Option Char :=
  if n < 0xd800 ∨ (0xdfff < n ∧ n < 0x110000) then some (Char.ofNat n) else none

def hexValue (digits : List Char) : Nat :=
  digits.foldl (fun n c => n * 16 + (Text.hexDigit? c).getD 0) 0

namespace Reader

/-- A character by the number between braces; the current character is the opening one. -/
def hexBraces (start : Place) : Reader Ast := do
  let brace ← place
  let digitStart := (← charSpan).stop
  let _ ← next
  let digits ← takeWhile Text.isHexDigit (discard next)
  if ← atEnd then refuse .escapeEof (← spanFrom brace)
  if !(← at? '}') then refuse .escapeHexDigit (← charSpan)
  let digitEnd ← place
  let _ ← next
  if digits.isEmpty then refuse .escapeHexEmpty (← spanFrom brace)
  match charOfNumber? (hexValue digits) with
  | some c => return .literal (← spanFrom start) ⟨c, none⟩
  | none => refuse .escapeHexInvalid ⟨digitStart, digitEnd⟩

def hexDigits : (count : Nat) → (first : Bool) → Reader (List Char)
  | 0, _ => return []
  | count + 1, first => do
    if !first then
      if !(← next) then refuse .escapeEof (← noSpan)
    match ← char? with
    | some c =>
      if Text.isHexDigit c then return c :: (← hexDigits count false)
      else refuse .escapeHexDigit (← charSpan)
    | none => refuse .escapeEof (← noSpan)

/-- A character by number; the current character is the letter, which says how many digits
follow. Two digits also stand for a byte. -/
def hexEscape (start : Place) (letter : Char) : Reader Ast := do
  if !(← next) then refuse .escapeEof (← noSpan)
  if ← at? '{' then hexBraces start
  else
    let count := if letter = 'x' then 2 else if letter = 'u' then 4 else 8
    let digitStart ← place
    let digits ← hexDigits count true
    let _ ← next
    let n := hexValue digits
    match charOfNumber? n with
    | some c => return .literal (← spanFrom start) ⟨c, if letter = 'x' then some n else none⟩
    | none => refuse .escapeHexInvalid (← spanFrom digitStart)

/-- The name and value on the two sides of a sign, if it is there. -/
def splitName? (sign : String) (name : List Char) : Option (String × String) :=
  (Text.findFirst? sign.toList name).map fun i =>
    (String.ofList (name.take i), String.ofList (name.drop (i + sign.length)))

/-- What the text between the braces of a class names, and whether it is negated. -/
def unicodeName (name : List Char) : Bool × UnicodeName :=
  match splitName? "!=" name with
  | some (n, v) => (true, .valued n v)
  | none =>
    match (splitName? ":" name).or (splitName? "=" name) with
    | some (n, v) => (false, .valued n v)
    | none => (false, .named (String.ofList name))

/-- A class by name; the current character is the letter. -/
def unicodeClass (start : Place) (negated : Bool) : Reader Ast := do
  if !(← next) then refuse .escapeEof (← noSpan)
  if ← at? '{' then
    let _ ← next
    let name ← takeWhile (· ≠ '}') (discard next)
    if ← atEnd then refuse .escapeEof (← noSpan)
    bump
    let (differs, name) := unicodeName name
    return .unicode (← spanFrom start) (negated != differs) name
  else
    let c := (← char?).getD 'L'
    if c = '\\' then refuse .unicodeClassInvalid (← charSpan)
    let _ ← next
    return .unicode (← spanFrom start) negated (.oneLetter c)

def isBoundaryName (c : Char) : Bool := c.isAlpha || c == '-'

def boundary? : String → Option Assertion
  | "start" => some .wordStart
  | "end" => some .wordEnd
  | "start-half" => some .wordStartHalf
  | "end-half" => some .wordEndHalf
  | _ => none

/-- A boundary that is named between braces; the current character is the opening one. If no name
can start behind it, it is left for a repetition. -/
def namedBoundary (start : Place) : Reader Assertion := do
  let before ← get
  let brace ← place
  if !(← next) then refuse .boundaryEof (← spanFrom start)
  let nameStart ← place
  if !(isBoundaryName ((← char?).getD ' ')) then
    set before
    return .wordBoundary
  let name ← takeWhile isBoundaryName (discard next)
  if !(← at? '}') then refuse .boundaryUnclosed (← spanFrom brace)
  let nameEnd ← place
  bump
  match boundary? (String.ofList name) with
  | some kind => return kind
  | none => refuse .boundaryUnrecognized ⟨nameStart, nameEnd⟩

/-- The assertions and control characters that are written with a letter. -/
def letterEscape (start : Place) (span : Span) (c : Char) : Reader Ast :=
  match controlLetter? c with
  | some control => return .literal span ⟨control, none⟩
  | none =>
    match c with
    | 'A' => return .assertion span .startText
    | 'z' => return .assertion span .endText
    | 'B' => return .assertion span .notWordBoundary
    | '<' => return .assertion span .wordStart
    | '>' => return .assertion span .wordEnd
    | 'b' => do
      if ← at? '{' then
        let kind ← namedBoundary start
        return .assertion (← spanFrom start) kind
      return .assertion span .wordBoundary
    | _ => refuse .escapeUnrecognized span

def perlClass? (c : Char) : Option PerlClass :=
  match c.toLower with
  | 'd' => some .digit
  | 's' => some .space
  | 'w' => some .word
  | _ => none

/-- What stands behind a backslash, which is the current character. -/
def escape : Reader Ast := do
  let start ← place
  bump
  match ← char? with
  | none => refuse .escapeEof (← spanFrom start)
  | some c =>
    if c.isDigit then refuse .backreference ⟨start, (← charSpan).stop⟩
    if c = 'x' ∨ c = 'u' ∨ c = 'U' then hexEscape start c
    else if c = 'p' ∨ c = 'P' then unicodeClass start (c == 'P')
    else do
      bump
      let span ← spanFrom start
      match perlClass? c with
      | some kind => return .perl span c.isUpper kind
      | none =>
        if isEscapable c then return .literal span ⟨c, none⟩
        else letterEscape start span c

end Reader

end HistoryAudit.Regex
