/-
  HistoryAudit.Json.Fields

  The members of an object with fixed names. Fields are put together one by one;
  what they describe is the product of their types. A draft holds the fields met
  so far, so a repeated one is noticed where it stands and a missing one only at
  the end.
-/
import HistoryAudit.Json.Codec

namespace HistoryAudit.Json

/-- A member with a fixed name. -/
structure Field (α : Type) where
  name : String
  codec : Codec α
  /-- What an absent member stands for, if it may be absent. -/
  fallback? : Option α
  /-- Is the member left out when it has this value? -/
  omitted : α → Bool

namespace Field

def required (name : String) (codec : Codec α) : Field α :=
  ⟨name, codec, none, fun _ => false⟩

/-- A member that stands for `a` when it is absent. -/
def withDefault (name : String) (codec : Codec α) (a : α) : Field α :=
  ⟨name, codec, some a, fun _ => false⟩

/-- A member that may be null or absent, and is written as null. -/
def nullable (name : String) (codec : Codec α) : Field (Option α) :=
  withDefault name codec.option none

/-- A member that may be null or absent, and is left out when it has no value. -/
def optional (name : String) (codec : Codec α) : Field (Option α) :=
  ⟨name, codec.option, some none, Option.isNone⟩

def absent (f : Field α) (cause : Cause) : Except Cause α :=
  match f.fallback? with
  | some a => .ok a
  | none => .error cause

def write (f : Field α) (a : α) : List (String × Value) :=
  if f.omitted a then [] else [(f.name, f.codec.toValue a)]

end Field

/-- Members that together describe an `α`. -/
structure Fields (α : Type) where
  /-- What is known while the members are read. -/
  Draft : Type
  blank : Draft
  names : List String
  readMember : (levels : Nat) → (name : String) → Draft → Reader Draft
  ofMember : Origin → (name : String) → Value → Draft → Except Cause Draft
  /-- The result, once there are no more members. -/
  complete : Draft → Except Cause α
  /-- Reads the values alone from a list in a text; `index` of them were read before, and the whole
  is called `expected`. -/
  readItems : (levels : Nat) → (expected : String) → (index : Nat) → Reader α
  /-- Takes the values alone from a list, and says what is left of it. -/
  ofItems : Origin → (expected : String) → (index : Nat) → List Value →
    Except Cause (α × List Value)
  write : α → List (String × Value)

namespace Fields

open Reader

/-- No members; those in a text are passed, whatever their names. -/
def done : Fields Unit where
  Draft := Unit
  blank := ()
  names := []
  readMember _ _ _ := do colon; skipValue
  ofMember _ _ _ _ := .ok ()
  complete _ := .ok ()
  readItems _ _ _ := pure ()
  ofItems _ _ _ vs := .ok ((), vs)
  write _ := []

def cons (f : Field α) (rest : Fields β) : Fields (α × β) where
  Draft := Option α × rest.Draft
  blank := (none, rest.blank)
  names := f.name :: rest.names
  readMember levels name d :=
    if name = f.name then
      if d.1.isSome then fail (.duplicateField f.name)
      else do
        colon
        return (some (← f.codec.read levels), d.2)
    else do return (d.1, ← rest.readMember levels name d.2)
  ofMember origin name v d :=
    if name = f.name then
      if d.1.isSome then .error (.duplicateField f.name)
      else do return (some (← f.codec.ofValue origin v), d.2)
    else do return (d.1, ← rest.ofMember origin name v d.2)
  complete d := do
    let a ← match d.1 with
      | some a => .ok a
      | none => f.absent (.missingField f.name)
    return (a, ← rest.complete d.2)
  readItems levels expected index := do
    let a ←
      if ← hasItem (index = 0) then f.codec.read levels
      else
        match f.absent (.invalidLength index expected) with
        | .ok a => pure a
        | .error cause => fail cause
    return (a, ← rest.readItems levels expected (index + 1))
  ofItems origin expected index vs := do
    let (a, vs) ← match vs with
      | [] => do pure (← f.absent (.invalidLength index expected), [])
      | v :: vs => do pure (← f.codec.ofValue origin v, vs)
    let (b, vs) ← rest.ofItems origin expected (index + 1) vs
    return ((a, b), vs)
  write p := f.write p.1 ++ rest.write p.2

/-- The members of a type that is as good as their product. -/
def map (fs : Fields α) (f : α → β) (g : β → α) : Fields β where
  Draft := fs.Draft
  blank := fs.blank
  names := fs.names
  readMember := fs.readMember
  ofMember := fs.ofMember
  complete d := f <$> fs.complete d
  readItems levels expected index := f <$> fs.readItems levels expected index
  ofItems origin expected index vs := do
    let (a, vs) ← fs.ofItems origin expected index vs
    return (f a, vs)
  write b := fs.write (g b)

/-- The words "with 2 elements". -/
def counted (what : String) (n : Nat) : String :=
  if n = 1 then s!"{what} with 1 element" else s!"{what} with {n} elements"

/-- What a list of the values alone is called. -/
def expectedItems (fs : Fields α) (what : String) : String :=
  counted what fs.names.length

def leftOver (fs : Fields α) (origin : Origin) (total : Nat) : Cause :=
  match origin with
  | .given => .invalidLength total "fewer elements in array"
  | .aside =>
    let n := fs.names.length
    .invalidLength total (if n = 1 then "1 element in sequence" else s!"{n} elements in sequence")

/-- The members of an object in a text whose brace was passed. -/
def readObject (fs : Fields α) (levels : Nat) : Reader α := do
  let d ← members string (fs.readMember levels) fs.blank
  match fs.complete d with
  | .ok a => pure a
  | .error cause => fail cause

def ofMembers (fs : Fields α) (origin : Origin) (members : List (String × Value)) :
    Except Cause α := do
  fs.complete (← members.foldlM (fun d m => fs.ofMember origin m.1 m.2 d) fs.blank)

/-- Takes the values alone from a list, which must hold no others. -/
def ofArray (fs : Fields α) (origin : Origin) (what : String) (vs : List Value) :
    Except Cause α := do
  let (a, rest) ← fs.ofItems origin (fs.expectedItems what) 0 vs
  if rest.isEmpty then return a else throw (fs.leftOver origin vs.length)

end Fields

namespace Codec

open Reader

/-- An object with the given members; members with other names are passed over. A list of the
values alone, in order, is another way to write it. -/
def record (name : String) (fs : Fields α) : Codec α where
  read levels := do
    match ← peekToken with
    | none => failAtNext .eofValue
    | some '[' =>
      opened (levels - 1) (enclosed
        (fs.readItems (levels - 1) (fs.expectedItems ("struct " ++ name)) 0) closeList)
    | some '\x7b' => opened (levels - 1) (enclosed (fs.readObject (levels - 1)) closeObject)
    | some c => mismatch ("struct " ++ name) c
  ofValue origin v :=
    match v with
    | .object members => fs.ofMembers origin members
    | .array vs => fs.ofArray origin ("struct " ++ name) vs
    | v => wrongType ("struct " ++ name) v
  toValue a := .object (fs.write a)

end Codec

end HistoryAudit.Json
