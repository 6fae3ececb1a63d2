/-
  HistoryAudit.Regex.Fault

  Places in a pattern, why a pattern is refused, and how that is shown: the
  pattern, carets under the place, and the reason.
-/

namespace HistoryAudit.Regex

/-- A place in a pattern: characters before it, and its line and column, counted from one. -/
structure Place where
  offset : Nat := 0
  line : Nat := 1
  column : Nat := 1
  deriving DecidableEq, Repr, Inhabited

def Place.next (p : Place) (c : Char) : Place :=
  if c = '\n' then ⟨p.offset + 1, p.line + 1, 1⟩ else ⟨p.offset + 1, p.line, p.column + 1⟩

structure Span where
  start : Place
  stop : Place
  deriving DecidableEq, Repr, Inhabited

inductive Cause where
  | classEscapeInvalid
  | classRangeInvalid
  | classRangeLiteral
  | classUnclosed
  | countEmpty
  | countInvalid
  | decimalInvalid
  | escapeEof
  | escapeHexEmpty
  | escapeHexInvalid
  | escapeHexDigit
  | escapeUnrecognized
  | flagDanglingNegation
  | flagDuplicate
  | flagRepeatedNegation
  | flagEof
  | flagUnrecognized
  | groupNameDuplicate
  | groupNameEmpty
  | groupNameInvalid
  | groupNameEof
  | groupUnclosed
  | groupUnopened
  | nestLimit (limit : Nat)
  | countUnclosed
  | repetitionMissing
  | boundaryUnclosed
  | boundaryUnrecognized
  | boundaryEof
  | unicodeClassInvalid
  | backreference
  | lookAround
  | unicodeNotAllowed
  | propertyNotFound
  | propertyValueNotFound
  deriving DecidableEq

def Cause.message : Cause → String
  | .classEscapeInvalid => "invalid escape sequence found in character class"
  | .classRangeInvalid => "invalid character class range, the start must be <= the end"
  | .classRangeLiteral => "invalid range boundary, must be a literal"
  | .classUnclosed => "unclosed character class"
  | .countEmpty => "repetition quantifier expects a valid decimal"
  | .countInvalid => "invalid repetition count range, the start must be <= the end"
  | .decimalInvalid => "decimal literal invalid"
  | .escapeEof => "incomplete escape sequence, reached end of pattern prematurely"
  | .escapeHexEmpty => "hexadecimal literal empty"
  | .escapeHexInvalid => "hexadecimal literal is not a Unicode scalar value"
  | .escapeHexDigit => "invalid hexadecimal digit"
  | .escapeUnrecognized => "unrecognized escape sequence"
  | .flagDanglingNegation => "dangling flag negation operator"
  | .flagDuplicate => "duplicate flag"
  | .flagRepeatedNegation => "flag negation operator repeated"
  | .flagEof => "expected flag but got end of regex"
  | .flagUnrecognized => "unrecognized flag"
  | .groupNameDuplicate => "duplicate capture group name"
  | .groupNameEmpty => "empty capture group name"
  | .groupNameInvalid => "invalid capture group character"
  | .groupNameEof => "unclosed capture group name"
  | .groupUnclosed => "unclosed group"
  | .groupUnopened => "unopened group"
  | .nestLimit limit => s!"exceed the maximum number of nested parentheses/brackets ({limit})"
  | .countUnclosed => "unclosed counted repetition"
  | .repetitionMissing => "repetition operator missing expression"
  | .boundaryUnclosed =>
    "special word boundary assertion is either unclosed or contains an invalid character"
  | .boundaryUnrecognized =>
    "unrecognized special word boundary assertion, valid choices are: start, end, start-half " ++
      "or end-half"
  | .boundaryEof =>
    "found either the beginning of a special word boundary or a bounded repetition on a \\b " ++
      "with an opening brace, but no closing brace"
  | .unicodeClassInvalid => "invalid Unicode character class"
  | .backreference => "backreferences are not supported"
  | .lookAround => "look-around, including look-ahead and look-behind, is not supported"
  | .unicodeNotAllowed => "Unicode not allowed here"
  | .propertyNotFound => "Unicode property not found"
  | .propertyValueNotFound => "Unicode property value not found"

/-- A cause, the part of the pattern it is about, and an earlier part that it refers to. -/
structure Fault where
  cause : Cause
  span : Span
  earlier? : Option Span := none
  deriving DecidableEq

namespace Fault

def patternLines : List Char → List (List Char)
  | [] => []
  | c :: cs =>
    if c = '\n' then [] :: patternLines cs
    else
      match patternLines cs with
      | [] => [[c]]
      | line :: rest => if c = '\r' ∧ line = [] ∧ cs.head? = some '\n' then [] :: rest
        else (c :: line) :: rest

/-- The parts to mark, in order. -/
def spans (f : Fault) : List Span :=
  match f.earlier? with
  | none => [f.span]
  | some e =>
    if e.start.offset < f.span.start.offset ∨
        (e.start.offset = f.span.start.offset ∧ e.stop.offset < f.span.stop.offset) then
      [e, f.span]
    else [f.span, e]

def oneLine (s : Span) : Bool := s.start.line == s.stop.line

/-- Carets under the marked parts of a line, the first column being `column`. -/
def carets : (column : Nat) → List Span → List Char
  | _, [] => []
  | column, s :: rest =>
    let width := max 1 (s.stop.column - s.start.column)
    let gap := s.start.column - column
    List.replicate gap ' ' ++ List.replicate width '^' ++ carets (column + gap + width) rest

/-- The number of a line, padded to `width`. -/
def lineNumber (width n : Nat) : String :=
  let digits := toString n
  String.ofList (List.replicate (width - digits.length) ' ') ++ digits

/-- A line of the pattern with its carets; `width` is zero unless the lines are numbered. -/
def notatedLine (f : Fault) (width : Nat) (line : List Char) (number : Nat) : String :=
  let lead := if width = 0 then "    " else lineNumber width number ++ ": "
  let marked := f.spans.filter fun s => oneLine s && s.start.line == number
  let padding := if width = 0 then 4 else 2 + width
  let notes :=
    if marked.isEmpty then ""
    else String.ofList (List.replicate padding ' ' ++ carets 1 marked) ++ "\n"
  lead ++ String.ofList line ++ "\n" ++ notes

/-- A remark about a part that spans several lines. -/
def remark (s : Span) : String :=
  s!"on line {s.start.line} (column {s.start.column}) through line {s.stop.line} " ++
    s!"(column {s.stop.column - 1})"

def message (f : Fault) (pattern : String) : String :=
  let lines := patternLines pattern.toList
  let count := lines.length + (if pattern.toList.getLast? = some '\n' then 1 else 0)
  let width := if count ≤ 1 then 0 else (toString count).length
  let notated := String.join ((lines.zipIdx 1).map fun (line, n) => f.notatedLine width line n)
  let divider :=
    if pattern.toList.contains '\n' then String.ofList (List.replicate 79 '~') ++ "\n" else ""
  let long := f.spans.filter (!oneLine ·)
  let remarks :=
    if divider.isEmpty ∨ long.isEmpty then "" else "\n".intercalate (long.map remark) ++ "\n"
  "regex parse error:\n" ++ divider ++ notated ++ divider ++ remarks ++ "error: " ++
    f.cause.message

end Fault

end HistoryAudit.Regex
