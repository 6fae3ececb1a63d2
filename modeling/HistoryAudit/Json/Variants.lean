/-
  HistoryAudit.Json.Variants

  One of several shapes, told apart by a member that holds the name of the shape.
  That member may stand anywhere in the object, so the others are set aside until
  it is known, and faults inside them have no place of their own.
-/
import HistoryAudit.Json.Fields

namespace HistoryAudit.Json

/-- Shapes with a name each; what they describe is the sum of their types. -/
structure Variants (α : Type) where
  names : List String
  /-- Reads what was set aside for the shape of that name. -/
  ofContent : (name : String) → Value → Except Cause α
  /-- The name of the shape of a value, and its members. -/
  write : α → String × List (String × Value)

namespace Variants

def none : Variants Empty where
  names := []
  ofContent name _ := .error (.unknownVariant name [])
  write e := nomatch e

/-- One more shape, which has no members and passes over any. -/
def bare (name : String) (rest : Variants β) : Variants (Unit ⊕ β) where
  names := name :: rest.names
  ofContent shape v :=
    if shape = name then
      match v with
      | .array (_ :: vs) => .error (.invalidLength (vs.length + 1) "0 elements in sequence")
      | _ => .ok (.inl ())
    else Sum.inr <$> rest.ofContent shape v
  write
    | .inl () => (name, [])
    | .inr b => rest.write b

/-- One more shape, with members; `owner` is the type they belong to, and `label` its shape. -/
def fields (name owner label : String) (fs : Fields α) (rest : Variants β) : Variants (α ⊕ β) where
  names := name :: rest.names
  ofContent shape v :=
    if shape = name then
      match v with
      | .object members => Sum.inl <$> fs.ofMembers .aside members
      | .array vs => Sum.inl <$> fs.ofArray .aside s!"struct variant {owner}::{label}" vs
      | v => Codec.wrongType s!"struct variant {owner}::{label}" v
    else Sum.inr <$> rest.ofContent shape v
  write
    | .inl a => (name, fs.write a)
    | .inr b => rest.write b

/-- The shapes of a type that is as good as their sum. -/
def map (vs : Variants α) (f : α → β) (g : β → α) : Variants β where
  names := vs.names
  ofContent name v := f <$> vs.ofContent name v
  write b := vs.write (g b)

def named (vs : Variants α) : Value → Except Cause String :=
  Codec.variantName (vs.names.map fun n => (n, n))

end Variants

namespace Codec

open Reader

/-- The name of a shape, once it is known, and the other members, the last one first. -/
abbrev Tagged := Option String × List (String × Value)

def readTagged (tag : String) (vs : Variants α) (levels : Nat) (name : String) (t : Tagged) :
    Reader Tagged := do
  if name = tag then
    if t.1.isSome then fail (.duplicateField tag)
    else
      colon
      return (some (← Reader.leaf "variant identifier" vs.named), t.2)
  else
    colon
    return (t.1, (name, ← value levels) :: t.2)

def ofTagged (tag : String) (vs : Variants α) (t : Tagged) (m : String × Value) :
    Except Cause Tagged := do
  if m.1 = tag then
    if t.1.isSome then throw (.duplicateField tag)
    else return (some (← vs.named m.2), t.2)
  else return (t.1, m :: t.2)

/-- The name and the content that the members describe. -/
def split (tag : String) (t : Tagged) : Except Cause (String × Value) :=
  match t.1 with
  | some name => .ok (name, .object t.2.reverse)
  | none => .error (.missingField tag)

/-- An object whose member `tag` names its shape. A list that starts with that name and goes on
with the values alone is another way to write it. -/
def tagged (name tag : String) (vs : Variants α) : Codec α where
  read levels := do
    let expected := "internally tagged enum " ++ name
    let (shape, content) ←
      match ← peekToken with
      | none => failAtNext .eofValue
      | some '[' =>
        opened (levels - 1) (enclosed
          (do
            if ← hasItem true then
              let shape ← Reader.leaf "variant identifier" vs.named
              let rest ← fun c =>
                itemsFrom (value (levels - 1)) (c.rest.length + 1) false c
              return (shape, Value.array rest)
            else fail (.missingField tag))
          closeList)
      | some '\x7b' =>
        opened (levels - 1) (enclosed
          (do
            let t ← members string (readTagged tag vs (levels - 1)) (Option.none, [])
            match split tag t with
            | .ok r => pure r
            | .error cause => fail cause)
          closeObject)
      | some c => mismatch expected c
    match vs.ofContent shape content with
    | .ok a => pure a
    | .error cause => fail cause
  ofValue _ v := do
    let (shape, content) ←
      match v with
      | .object members =>
        split tag (← members.foldlM (ofTagged tag vs) (Option.none, []))
      | .array [] => throw (.missingField tag)
      | .array (v :: rest) => do pure (← vs.named v, Value.array rest)
      | v => wrongType ("internally tagged enum " ++ name) v
    vs.ofContent shape content
  toValue a := .object ((tag, .string (vs.write a).1) :: (vs.write a).2)

end Codec

end HistoryAudit.Json
