/-
  HistoryAudit.Json.Fault

  Why a JSON text or value cannot be read: the cause, where the reader stood, and
  the wording of both.
-/
import HistoryAudit.Decimal.Shortest
import HistoryAudit.Json.Value
import HistoryAudit.Text.Quoted

namespace HistoryAudit.Json

/-- What stands where something else was expected. -/
inductive Found where
  | bool (b : Bool)
  | number (n : Number)
  | string (s : String)
  | null
  | sequence
  | map
  deriving DecidableEq

def Found.of : Value → Found
  | .null => .null
  | .bool b => .bool b
  | .number n => .number n
  | .string s => .string s
  | .array _ => .sequence
  | .object _ => .map

def Found.message : Found → String
  | .bool b => s!"boolean `{b}`"
  | .number (.int n) => s!"integer `{n}`"
  | .number (.float f) => s!"floating point `{Decimal.text f}`"
  | .string s => "string " ++ Text.quoted s
  | .null => "null"
  | .sequence => "sequence"
  | .map => "map"

inductive UuidFault where
  /-- A character that is no digit, counted from one over the whole text. -/
  | character (c : Char) (place : Nat)
  | simpleLength (found : Nat)
  | groupCount (found : Nat)
  /-- Groups are counted from zero. -/
  | groupLength (group expected found : Nat)
  deriving DecidableEq

def UuidFault.message : UuidFault → String
  | .character c place =>
    "invalid character: expected an optional prefix of `urn:uuid:` followed by [0-9a-fA-F-], " ++
      "found `" ++ String.ofList [c] ++ s!"` at {place}"
  | .simpleLength found =>
    s!"invalid length: expected length 32 for simple format, found {found}"
  | .groupCount found => s!"invalid group count: expected 5, found {found}"
  | .groupLength group expected found =>
    s!"invalid group length in group {group}: expected {expected}, found {found}"

inductive Cause where
  | eofValue
  | eofString
  | eofList
  | eofObject
  | expectedColon
  | expectedListEnd
  | expectedObjectEnd
  | expectedIdent
  | expectedValue
  | keyMustBeString
  | trailingComma
  | trailingCharacters
  | controlCharacter
  | invalidEscape
  | loneSurrogate
  | brokenSurrogatePair
  | invalidNumber
  | numberOutOfRange
  | recursionLimit
  | invalidType (found : Found) (expected : String)
  | invalidValue (found : Found) (expected : String)
  | invalidLength (found : Nat) (expected : String)
  | missingField (name : String)
  | duplicateField (name : String)
  | unknownVariant (name : String) (known : List String)
  | uuid (fault : UuidFault)
  deriving DecidableEq

def alternatives : List String → String
  | [] => "there are no variants"
  | [a] => s!"expected `{a}`"
  | [a, b] => s!"expected `{a}` or `{b}`"
  | names => "expected one of " ++ ", ".intercalate (names.map fun n => s!"`{n}`")

def Cause.message : Cause → String
  | .eofValue => "EOF while parsing a value"
  | .eofString => "EOF while parsing a string"
  | .eofList => "EOF while parsing a list"
  | .eofObject => "EOF while parsing an object"
  | .expectedColon => "expected `:`"
  | .expectedListEnd => "expected `,` or `]`"
  | .expectedObjectEnd => "expected `,` or `\x7d`"
  | .expectedIdent => "expected ident"
  | .expectedValue => "expected value"
  | .keyMustBeString => "key must be a string"
  | .trailingComma => "trailing comma"
  | .trailingCharacters => "trailing characters"
  | .controlCharacter =>
    "control character (\\u0000-\\u001F) found while parsing a string"
  | .invalidEscape => "invalid escape"
  | .loneSurrogate => "lone leading surrogate in hex escape"
  | .brokenSurrogatePair => "unexpected end of hex escape"
  | .invalidNumber => "invalid number"
  | .numberOutOfRange => "number out of range"
  | .recursionLimit => "recursion limit exceeded"
  | .invalidType found expected => s!"invalid type: {found.message}, expected {expected}"
  | .invalidValue found expected => s!"invalid value: {found.message}, expected {expected}"
  | .invalidLength found expected => s!"invalid length {found}, expected {expected}"
  | .missingField name => s!"missing field `{name}`"
  | .duplicateField name => s!"duplicate field `{name}`"
  | .unknownVariant name known => s!"unknown variant `{name}`, " ++ alternatives known
  | .uuid fault => "UUID parsing failed: " ++ fault.message

/-- A place in a text: the line, counted from one, and the bytes before it on that line. -/
structure Position where
  line : Nat
  column : Nat
  deriving DecidableEq, Repr

namespace Position

def start : Position := ⟨1, 0⟩

def next (p : Position) (c : Char) : Position :=
  if c = '\n' then ⟨p.line + 1, 0⟩ else ⟨p.line, p.column + c.utf8Size⟩

/-- The place behind the first byte of what follows, if anything does. -/
def peeked (p : Position) : List Char → Position
  | [] => p
  | c :: _ => if c = '\n' then ⟨p.line + 1, 0⟩ else ⟨p.line, p.column + 1⟩

/-- The place behind so many bytes of what follows. -/
def behind (p : Position) : (bytes : Nat) → List Char → Position
  | _, [] => p
  | n, c :: cs =>
    if n = 0 then p
    else if n < c.utf8Size then ⟨p.line, p.column + n⟩
    else (p.next c).behind (n - c.utf8Size) cs

def afterAll (p : Position) (cs : List Char) : Position :=
  cs.foldl next p

end Position

/-- A cause, with the place if the reader knew it when the cause arose. -/
structure Fault where
  cause : Cause
  place? : Option Position
  deriving DecidableEq

namespace Fault

def located (f : Fault) (p : Position) : Fault :=
  { f with place? := some (f.place?.getD p) }

def message (f : Fault) : String :=
  match f.place? with
  | some p => s!"{f.cause.message} at line {p.line} column {p.column}"
  | none => f.cause.message

end Fault

end HistoryAudit.Json
