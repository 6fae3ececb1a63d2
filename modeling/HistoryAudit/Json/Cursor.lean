/-
  HistoryAudit.Json.Cursor

  The place of a reader in a text, and readers as functions on it. A reader that
  fails still says how far it came, because a container that failed inside is
  closed before its fault gets a place.
-/
import HistoryAudit.Json.Fault

namespace HistoryAudit.Json

/-- What is still to be read, and where it stands in the whole text. -/
structure Cursor where
  rest : List Char
  place : Position

namespace Cursor

def ofText (text : String) : Cursor := ⟨text.toList, .start⟩

def next (c : Cursor) : Cursor :=
  match c.rest with
  | [] => c
  | ch :: cs => ⟨cs, c.place.next ch⟩

def advance (c : Cursor) (n : Nat) : Cursor :=
  ⟨c.rest.drop n, c.place.afterAll (c.rest.take n)⟩

end Cursor

def isSpace (c : Char) : Bool :=
  c == ' ' || c == '\n' || c == '\t' || c == '\r'

def isDigit (c : Char) : Bool :=
  '0' ≤ c && c ≤ '9'

abbrev Reader := EStateM Fault Cursor

namespace Reader

/-- Fails, the fault standing at the present place. -/
def failHere (cause : Cause) : Reader α := fun c =>
  .error ⟨cause, some c.place⟩ c

/-- Fails because of the next character, which counts as looked at. -/
def failAtNext (cause : Cause) : Reader α := fun c =>
  .error ⟨cause, some (c.place.peeked c.rest)⟩ c

def fail (cause : Cause) : Reader α := throw ⟨cause, none⟩

def peek : Reader (Option Char) := fun c => .ok c.rest.head? c

def skip : Reader Unit := fun c => .ok () c.next

def skipSpace : Reader Unit := fun c =>
  .ok () (c.advance (c.rest.takeWhile isSpace).length)

/-- The next character behind the blanks. -/
def peekToken : Reader (Option Char) := do
  skipSpace
  peek

/-- A fault without a place gets the place where `r` stopped. -/
def located (r : Reader α) : Reader α := fun c =>
  match r c with
  | .ok a c' => .ok a c'
  | .error f c' => .error (f.located c'.place) c'

/-- Reads the inside of a container and then its end. A fault inside that has no place yet stands
behind that end. -/
def enclosed (inside : Reader α) (close : Reader Unit) : Reader α := fun c =>
  match inside c with
  | .ok a c' =>
    match close c' with
    | .ok _ c'' => .ok a c''
    | .error f c'' => .error (f.located c''.place) c''
  | .error f c' =>
    match close c' with
    | .ok _ c'' => .error (f.located c''.place) c''
    | .error _ c'' => .error (f.located c''.place) c''

def word : List Char → Reader Unit
  | [] => pure ()
  | expected :: more => fun c =>
    match c.rest with
    | [] => failHere .eofValue c
    | ch :: _ => if ch = expected then word more c.next else failAtNext .expectedIdent c

/-- Is there a further item in the list? The comma between two items is passed. -/
def hasItem (first : Bool) : Reader Bool := do
  match ← peekToken with
  | none => failAtNext .eofList
  | some c =>
    if c = ']' then pure false
    else if first then pure true
    else if c = ',' then
      skip
      match ← peekToken with
      | none => failAtNext .eofValue
      | some d => if d = ']' then failAtNext .trailingComma else pure true
    else failAtNext .expectedListEnd

def hasMember (first : Bool) : Reader Bool := do
  match ← peekToken with
  | none => failAtNext .eofObject
  | some c =>
    if c = '\x7d' then pure false
    else if first then
      if c = '"' then pure true else failAtNext .keyMustBeString
    else if c = ',' then
      skip
      match ← peekToken with
      | none => failAtNext .eofValue
      | some d =>
        if d = '"' then pure true
        else if d = '\x7d' then failAtNext .trailingComma
        else failAtNext .keyMustBeString
    else failAtNext .expectedObjectEnd

def closeList : Reader Unit := do
  match ← peekToken with
  | none => failAtNext .eofList
  | some c =>
    if c = ']' then skip
    else if c = ',' then
      skip
      match ← peekToken with
      | some ']' => failAtNext .trailingComma
      | _ => failAtNext .trailingCharacters
    else failAtNext .trailingCharacters

def closeObject : Reader Unit := do
  match ← peekToken with
  | none => failAtNext .eofObject
  | some c =>
    if c = '\x7d' then skip
    else if c = ',' then failAtNext .trailingComma
    else failAtNext .trailingCharacters

def colon : Reader Unit := do
  match ← peekToken with
  | none => failAtNext .eofObject
  | some c => if c = ':' then skip else failAtNext .expectedColon

def finish : Reader Unit := do
  match ← peekToken with
  | none => pure ()
  | some _ => failAtNext .trailingCharacters

/-- Items up to the end of the list; `fuel` is more than the characters left. -/
def itemsFrom (item : Reader α) : (fuel : Nat) → (first : Bool) → Reader (List α)
  | 0, _ => failHere .eofList
  | fuel + 1, first => do
    if ← hasItem first then
      let a ← item
      return a :: (← itemsFrom item fuel false)
    else pure []

def items (item : Reader α) : Reader (List α) := fun c =>
  itemsFrom item (c.rest.length + 1) true c

/-- Members up to the end of the object, each changing the state; `fuel` is more than the
characters left. `name` reads a name behind its quote and `member` what follows it. -/
def membersFrom (name : Reader String) (member : String → σ → Reader σ) :
    (fuel : Nat) → (first : Bool) → σ → Reader σ
  | 0, _, _ => failHere .eofObject
  | fuel + 1, first, s => do
    if ← hasMember first then
      skip
      let key ← name
      membersFrom name member fuel false (← member key s)
    else pure s

def members (name : Reader String) (member : String → σ → Reader σ) (s : σ) : Reader σ := fun c =>
  membersFrom name member (c.rest.length + 1) true s c

end Reader

end HistoryAudit.Json
