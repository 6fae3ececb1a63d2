/-
  HistoryAudit.Yaml.Tag

  Tags, which state the type of a node, and the directives in front of a document
  that give them short forms.
-/
import HistoryAudit.Text.Digits
import HistoryAudit.Text.Utf8
import HistoryAudit.Yaml.Cursor

namespace HistoryAudit.Yaml

/-- What a tag says of its node. -/
inductive Tag where
  /-- A mark alone, which says nothing. -/
  | bare
  | null
  | boolean
  | integer
  | float
  /-- A type of the text's own. -/
  | own
  | other
  deriving DecidableEq

namespace Tag

/-- The name of the family that the types of the format share. -/
def family : List UInt8 := Text.Utf8.encode "tag:yaml.org,2002:"

def ofName (name : List UInt8) : Tag :=
  if name = [0x21] then .bare
  else if name = family ++ Text.Utf8.encode "null" then .null
  else if name = family ++ Text.Utf8.encode "bool" then .boolean
  else if name = family ++ Text.Utf8.encode "int" then .integer
  else if name = family ++ Text.Utf8.encode "float" then .float
  else
    match name, Text.Utf8.decode name with
    | 0x21 :: _, .ok _ => .own
    | _, _ => .other

end Tag

/-- A tag as it is written: a handle, which stands for the beginning of the name, and the rest. -/
structure WrittenTag where
  handle : List Char
  suffix : List UInt8

/-! ## Names -/

/-- May the character stand in a name? Between angle brackets, three more may. -/
def isTagChar (bracketed : Bool) (c : Char) : Bool :=
  isNameChar c || ";/?:@&=+$.!~*'()".toList.contains c || (bracketed && ",[]".toList.contains c)

def percentOctet? (cs : List Char) : Option Nat :=
  match cs with
  | '%' :: a :: b :: _ => Text.number? 16 [a, b]
  | _ => none

/-- How many octets follow the first one of a character. -/
def following? (octet : Nat) : Option Nat :=
  if octet < 0x80 then some 0
  else if octet / 0x20 = 6 then some 1
  else if octet / 0x10 = 14 then some 2
  else if octet / 8 = 30 then some 3
  else none

def continuing : (count : Nat) → List Char → Option (List UInt8)
  | 0, _ => some []
  | count + 1, cs =>
    match percentOctet? cs with
    | none => none
    | some octet =>
      if octet / 0x40 = 2 then (continuing count (cs.drop 3)).map (octet.toUInt8 :: ·) else none

/-- Reads a character that is written by percent signs. -/
def percentCharacter? (cs : List Char) : Option (List UInt8) :=
  (percentOctet? cs).bind fun octet =>
    (following? octet).bind fun count =>
      (continuing count (cs.drop 3)).map (octet.toUInt8 :: ·)

/-- The octets of the longest name here, behind those so far. `fuel` is more than the characters
left. -/
def tagName (bracketed : Bool) :
    (fuel : Nat) → (name : List UInt8) → Cursor → Option (List UInt8 × Cursor)
  | 0, name, c => some (name, c)
  | fuel + 1, name, c =>
    match c.rest with
    | [] => some (name, c)
    | '%' :: _ =>
      match percentCharacter? c.rest with
      | none => none
      | some octets => tagName bracketed fuel (name ++ octets) (c.skip (3 * octets.length))
    | x :: _ =>
      if isTagChar bracketed x then
        tagName bracketed fuel (name ++ [x.toNat.toUInt8]) (c.skip 1)
      else some (name, c)

/-- The longest handle here: a mark, a word, and a mark if one follows. -/
def tagHandle (c : Cursor) : List Char × Cursor :=
  let word := (c.rest.drop 1).takeWhile isNameChar
  let c := c.skip (1 + word.length)
  if c.at? '!' then ('!' :: word ++ ['!'], c.skip 1) else ('!' :: word, c)

namespace WrittenTag

/-- A tag from its mark on, without a look at what follows. -/
def text? (c : Cursor) : Option (WrittenTag × Cursor) :=
  if c.peek? 1 = some '<' then
    match tagName true (c.rest.length + 1) [] (c.skip 2) with
    | some (x :: name, c) => if c.at? '>' then some (⟨[], x :: name⟩, c.skip 1) else none
    | _ => none
  else
    let (handle, c) := tagHandle c
    if 1 < handle.length ∧ handle.getLast? = some '!' then
      match tagName false (c.rest.length + 1) [] c with
      | some (x :: name, c) => some (⟨handle, x :: name⟩, c)
      | _ => none
    else
      let first := handle.tail.map fun x => x.toNat.toUInt8
      (tagName false (c.rest.length + 1) first c).map fun (name, c) =>
        (if name.isEmpty then ⟨[], [0x21]⟩ else ⟨['!'], name⟩, c)

/-- A tag from its mark on. A blank follows it, or a comma within brackets. -/
def scan (flow : Bool) (c : Cursor) : Option (WrittenTag × Cursor) :=
  (text? c).bind fun (tag, c) =>
    if endsWord c.char? || (flow && c.at? ',') then some (tag, c) else none

end WrittenTag

/-! ## Directives -/

/-- A line in front of a document. -/
inductive Directive where
  /-- The version of the format; both that are known are read alike. -/
  | version
  /-- The beginning of the names that a handle stands for. -/
  | shorthand (handle : List Char) (beginning : List UInt8)

namespace Directive

/-- A number of at most nine digits. -/
def number? (c : Cursor) : Option (Nat × Cursor) :=
  let digits := c.rest.takeWhile Char.isDigit
  if digits.length ≤ 9 then (Text.number? 10 digits).map fun n => (n, c.skip digits.length)
  else none

def version? (c : Cursor) : Option ((Nat × Nat) × Cursor) :=
  (number? c).bind fun (major, c) =>
    if c.at? '.' then (number? (c.skip 1)).map fun (minor, c) => ((major, minor), c) else none

def ofName? (name : List Char) (c : Cursor) : Option (Directive × Cursor) :=
  if name = "YAML".toList then
    match version? c with
    | some ((1, minor), c) => if minor = 1 ∨ minor = 2 then some (.version, c) else none
    | _ => none
  else if name = "TAG".toList then
    let marked := c.at? '!'
    let (handle, c) := tagHandle c
    if marked && c.has isGap && (handle.length == 1 || handle.getLast? == some '!') then
      match tagName true (c.rest.length + 1) [] (c.skipWhile isGap) with
      | some (x :: name, c) =>
        if endsWord c.char? then some (.shorthand handle (x :: name), c) else none
      | _ => none
    else none
  else none

/-- A directive from its percent sign on, with its line end. Behind it stands nothing but a
comment. -/
def scan (c : Cursor) : Option (Directive × Cursor) :=
  let name := (c.rest.drop 1).takeWhile isNameChar
  let c := c.skip (1 + name.length)
  if name.isEmpty || !endsWord c.char? then none
  else
    (ofName? name (c.skipWhile isGap)).bind fun (directive, c) =>
      let c := c.skipWhile isGap
      let c := if c.at? '#' then c.skipWhile (!isBreak ·) else c
      if c.rest.isEmpty || c.has isBreak then some (directive, c.lineEnd.2) else none

end Directive

end HistoryAudit.Yaml
