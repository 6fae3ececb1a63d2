/-
  HistoryAudit.Json.Reader

  Reading any value. `value` keeps it and holds it to the limits of depth and
  number range; `skipValue` only finds its end, with no limits.
-/
import HistoryAudit.Json.Number
import HistoryAudit.Json.Text

namespace HistoryAudit.Json

namespace Reader

/-- So many brackets may be open at a time, the last one not included. -/
def maxDepth : Nat := 128

/-- Opens a container: its bracket is passed unless the limit of depth is reached, where `levels`
counts the brackets that may still be opened. -/
def opened (levels : Nat) (r : Reader α) : Reader α :=
  if levels = 0 then failAtNext .recursionLimit else do skip; r

/-- A value that is no container and whose first character is next: a word, a number or a
string. -/
def scalar (c : Char) : Reader Value := do
  if c = 'n' then skip; word ['u', 'l', 'l']; pure .null
  else if c = 't' then skip; word ['r', 'u', 'e']; pure (.bool true)
  else if c = 'f' then skip; word ['a', 'l', 's', 'e']; pure (.bool false)
  else if c = '-' ∨ isDigit c then return .number (← number)
  else if c = '"' then skip; return .string (← string)
  else failAtNext .expectedValue

def value : (levels : Nat) → Reader Value
  | 0 => do
    match ← peekToken with
    | none => failAtNext .eofValue
    | some _ => failAtNext .recursionLimit
  | levels + 1 => do
    match ← peekToken with
    | none => failAtNext .eofValue
    | some '[' =>
      return .array (← opened levels (enclosed (items (value levels)) closeList))
    | some '\x7b' =>
      return .object (← opened levels (enclosed
        (do return (← members string
          (fun name read => do colon; return (name, ← value levels) :: read) []).reverse)
        closeObject))
    | some c => scalar c

inductive Frame where
  | list
  | object

inductive Passing where
  | value
  | opening (frame : Frame)
  /-- An item of the innermost container was passed. -/
  | behind

/-- Passes the name of a member, its quote next, and the colon. -/
def skipName : Reader Unit := do
  match ← peekToken with
  | none => failAtNext .eofObject
  | some '"' => skip; skipString; colon
  | some _ => failAtNext .keyMustBeString

/-- Passes the digits that follow and says whether there were any. -/
def skipDigits : Reader Bool := return !(← digits).isEmpty

def skipExponent : Reader Unit := do
  skip
  let _ ← exponentSign
  unless ← skipDigits do failAtNext .invalidNumber

def skipExponent? : Reader Unit := do
  match ← peek with
  | some 'e' | some 'E' => skipExponent
  | _ => pure ()

def skipInteger : Reader Unit := do
  match ← peek with
  | some '0' =>
    skip
    match ← peek with
    | some d => if isDigit d then failAtNext .invalidNumber else pure ()
    | none => pure ()
  | some c => if isDigit c then let _ ← digits else failAtNext .invalidNumber
  | none => failHere .invalidNumber

def skipNumber : Reader Unit := do
  match ← peek with
  | some '-' => skip
  | _ => pure ()
  skipInteger
  match ← peek with
  | some '.' =>
    skip
    unless ← skipDigits do failAtNext .invalidNumber
    skipExponent?
  | _ => skipExponent?

def skipScalar (c : Char) : Reader Unit := do
  if c = '-' ∨ isDigit c then skipNumber
  else if c = '"' then skip; skipString
  else let _ ← scalar c

/-- Passes what is left of a value inside the open containers `frames`; `fuel` is more than twice
the characters left. -/
def skipFrom : (fuel : Nat) → List Frame → Passing → Reader Unit
  | 0, _, _ => failHere .eofValue
  | fuel + 1, frames, .value => do
    match ← peekToken with
    | none => failAtNext .eofValue
    | some '[' => skip; skipFrom fuel frames (.opening .list)
    | some '\x7b' => skip; skipFrom fuel frames (.opening .object)
    | some c => skipScalar c; skipFrom fuel frames .behind
  | fuel + 1, frames, .opening .list => do
    match ← peekToken with
    | none => failAtNext .eofList
    | some ']' => skip; skipFrom fuel frames .behind
    | some _ => skipFrom fuel (.list :: frames) .value
  | fuel + 1, frames, .opening .object => do
    match ← peekToken with
    | none => failAtNext .eofObject
    | some '\x7d' => skip; skipFrom fuel frames .behind
    | some _ => skipName; skipFrom fuel (.object :: frames) .value
  | _ + 1, [], .behind => pure ()
  | fuel + 1, .list :: frames, .behind => do
    match ← peekToken with
    | none => failAtNext .eofList
    | some ',' => skip; skipFrom fuel (.list :: frames) .value
    | some ']' => skip; skipFrom fuel frames .behind
    | some _ => failAtNext .expectedListEnd
  | fuel + 1, .object :: frames, .behind => do
    match ← peekToken with
    | none => failAtNext .eofObject
    | some ',' => skip; skipName; skipFrom fuel (.object :: frames) .value
    | some '\x7d' => skip; skipFrom fuel frames .behind
    | some _ => failAtNext .expectedObjectEnd

def skipValue : Reader Unit := fun c => skipFrom (2 * c.rest.length + 4) [] .value c

def run (r : Reader α) (text : String) : Except Fault α :=
  match (do let a ← r; finish; pure a : Reader α) (Cursor.ofText text) with
  | .ok a _ => .ok a
  | .error f _ => .error f

end Reader

def parse (text : String) : Except Fault Value :=
  Reader.run (Reader.value Reader.maxDepth) text

end HistoryAudit.Json
