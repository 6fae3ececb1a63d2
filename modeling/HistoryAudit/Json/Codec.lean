/-
  HistoryAudit.Json.Codec

  A codec ties a type to JSON in three ways: reading it from a text, reading it
  from a value, and writing it as a value. Reading from a text knows the place
  of a fault; reading from a value does not. The codecs here are those of single
  values and of uniform containers.
-/
import HistoryAudit.Json.Reader
import HistoryAudit.Text.OsText

namespace HistoryAudit.Json

/-- Where a value comes from when it is not read from a text. -/
inductive Origin where
  | given
  /-- It was set aside while a text or another value was read. -/
  | aside
  deriving DecidableEq

/-- The ways between `α` and JSON. -/
structure Codec (α : Type) where
  /-- Reads from a text in which `levels` further brackets may be opened. -/
  read : (levels : Nat) → Reader α
  ofValue : Origin → Value → Except Cause α
  toValue : α → Value

namespace Reader

/-- Fails because the value that starts with `c` is none of the expected kind. A value that is no
container is read first. -/
def mismatch (expected : String) (c : Char) : Reader α := do
  if c = '[' then failHere (.invalidType .sequence expected)
  else if c = '\x7b' then failHere (.invalidType .map expected)
  else
    let v ← scalar c
    failHere (.invalidType (Found.of v) expected)

/-- Reads a value that is no container and holds it to `accept`. -/
def leaf (expected : String) (accept : Value → Except Cause α) : Reader α := do
  match ← peekToken with
  | none => failAtNext .eofValue
  | some c =>
    if c = '[' ∨ c = '\x7b' then mismatch expected c
    else
      match accept (← scalar c) with
      | .ok a => pure a
      | .error cause => failHere cause

end Reader

namespace Codec

open Reader

def wrongType (expected : String) (v : Value) : Except Cause α :=
  .error (.invalidType (Found.of v) expected)

/-- The codec of a value that is no container. -/
def leaf (expected : String) (accept : Value → Except Cause α) (toValue : α → Value) : Codec α where
  read _ := Reader.leaf expected accept
  ofValue _ := accept
  toValue := toValue

/-- The same JSON for another type. -/
def map (c : Codec α) (f : α → β) (g : β → α) : Codec β where
  read levels := f <$> c.read levels
  ofValue origin v := f <$> c.ofValue origin v
  toValue b := c.toValue (g b)

/-- A text; `expected` names it in faults. -/
def textOf (expected : String) : Codec String :=
  leaf expected
    (fun
      | .string s => .ok s
      | v => wrongType expected v)
    .string

def text : Codec String := textOf "a string"

/-- The path of a file, as it is shown. -/
def path : Codec OsText := (textOf "path string").map .ofString OsText.shown

def bool : Codec Bool :=
  leaf "a boolean"
    (fun
      | .bool b => .ok b
      | v => wrongType "a boolean" v)
    .bool

/-- An integer between two bounds; `expected` names its kind. -/
def integer (expected : String) (least greatest : Int) : Codec Int :=
  leaf expected
    (fun
      | .number (.int n) =>
        if least ≤ n ∧ n ≤ greatest then .ok n
        else .error (.invalidValue (.number (.int n)) expected)
      | v => wrongType expected v)
    .int

def natural (expected : String) (bits : Nat) : Codec Nat :=
  (integer expected 0 (Nat.pow 2 bits - 1)).map Int.toNat Int.ofNat

def int32 : Codec Int := integer "i32" (-(Nat.pow 2 31)) (Nat.pow 2 31 - 1)

def floatOfInt (n : Int) : Float :=
  if n < 0 then -n.natAbs.toUInt64.toFloat else n.natAbs.toUInt64.toFloat

def float : Codec Float :=
  leaf "f64"
    (fun
      | .number (.float f) => .ok f
      | .number (.int n) => .ok (floatOfInt n)
      | v => wrongType "f64" v)
    (fun f => .number (.float f))

/-- Any value, in its canonical form. -/
def any : Codec Value where
  read levels := Value.canonical <$> value levels
  ofValue _ v := .ok v.canonical
  toValue v := v

def option (c : Codec α) : Codec (Option α) where
  read levels := do
    match ← peekToken with
    | some 'n' => skip; word ['u', 'l', 'l']; pure none
    | _ => some <$> c.read levels
  ofValue origin v :=
    match v with
    | .null => .ok none
    | v => some <$> c.ofValue origin v
  toValue
    | none => .null
    | some a => c.toValue a

def list (c : Codec α) : Codec (List α) where
  read levels := do
    match ← peekToken with
    | none => failAtNext .eofValue
    | some '[' => opened (levels - 1) (enclosed (items (c.read (levels - 1))) closeList)
    | some ch => mismatch "a sequence" ch
  ofValue origin v :=
    match v with
    | .array vs => vs.mapM (c.ofValue origin)
    | v => wrongType "a sequence" v
  toValue as := .array (as.map c.toValue)

/-- Texts by name, sorted; the last of equal names wins. -/
def textMap : Codec (List (String × String)) where
  read levels := do
    match ← peekToken with
    | none => failAtNext .eofValue
    | some '\x7b' =>
      opened (levels - 1) (enclosed
        (members string (fun name sorted => do
          colon
          return Value.insertMember name (← text.read (levels - 1)) sorted) [])
        closeObject)
    | some ch => mismatch "a map" ch
  ofValue origin v :=
    match v with
    | .object members => do
      let texts ← members.mapM fun m => return (m.1, ← text.ofValue origin m.2)
      return Value.sortMembers texts
    | v => wrongType "a map" v
  toValue texts := .object (texts.map fun t => (t.1, .string t.2))

/-- The meaning of a name among the known ones. -/
def variant (known : List (String × α)) (name : String) : Except Cause α :=
  match known.find? (·.1 == name) with
  | some (_, a) => .ok a
  | none => .error (.unknownVariant name (known.map (·.1)))

def variantName (known : List (String × α)) : Value → Except Cause α
  | .string s => variant known s
  | v => wrongType "variant identifier" v

def unit : Value → Except Cause Unit
  | .null => .ok ()
  | v => wrongType "unit" v

/-- Holds what stands beside the name of a variant to be empty. -/
def noContent : Origin → Value → Except Cause Unit
  | .aside, .object [] => .ok ()
  | _, v => unit v

/-- One of several names; an object whose only member has that name and the value null is another
way to write it. -/
def choice (known : List (String × α)) (name : α → String) : Codec α where
  read levels := do
    match ← peekToken with
    | none => failAtNext .eofValue
    | some '"' => Reader.leaf "variant identifier" (variantName known)
    | some '\x7b' =>
      opened (levels - 1) do
        let a ← Reader.leaf "variant identifier" (variantName known)
        colon
        let () ← Reader.leaf "unit" unit
        match ← peekToken with
        | some '\x7d' => skip; pure a
        | some _ => failHere .expectedValue
        | none => failHere .eofObject
    | some _ => failAtNext .expectedValue
  ofValue origin v :=
    match v with
    | .string s => variant known s
    | .object [(s, content)] => do
      let a ← variant known s
      noContent origin content
      return a
    | .object _ => .error (.invalidValue .map "map with a single key")
    | v => wrongType "string or map" v
  toValue a := .string (name a)

def decode (c : Codec α) (text : String) : Except Fault α :=
  Reader.run (c.read Reader.maxDepth) text

def decodeValue (c : Codec α) (v : Value) : Except Fault α :=
  match c.ofValue .given v with
  | .ok a => .ok a
  | .error cause => .error ⟨cause, none⟩

end Codec

end HistoryAudit.Json
