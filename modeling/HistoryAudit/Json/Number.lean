/-
  HistoryAudit.Json.Number

  Reading a number. The digits gather in a 64-bit significand; those that no
  longer fit are dropped, and the result is scaled by one power of ten. So an
  integer is exact, and the last bit of a long fraction may differ from the
  correctly rounded value.
-/
import HistoryAudit.Json.Cursor

namespace HistoryAudit.Json

namespace Number

def maxSignificand : Nat := Nat.pow 2 64 - 1

def maxExponent : Nat := Nat.pow 2 31 - 1

/-- Appends digits to `acc` as long as the result stays within `limit`; the digits left over follow
the first one that did not fit. -/
def absorb (limit : Nat) : (acc : Nat) → List Char → Nat × List Char
  | acc, [] => (acc, [])
  | acc, d :: ds =>
    let grown := acc * 10 + (d.toNat - '0'.toNat)
    if grown ≤ limit then absorb limit grown ds else (acc, d :: ds)

def powerOfTen (k : Nat) : Float :=
  Float.ofScientific 1 false k

/-- Scales `f` by `10^exponent` in steps that a double can hold; `none` if it grows beyond every
double. A power of ten is exact or correctly rounded up to the 308th. -/
def scaled (f : Float) (exponent : Int) : (fuel : Nat) → Option Float
  | 0 => some f
  | fuel + 1 =>
    if exponent.natAbs ≤ 308 then
      if exponent ≥ 0 then
        let g := f * powerOfTen exponent.natAbs
        if g.isInf then none else some g
      else some (f / powerOfTen exponent.natAbs)
    else if f == 0 then some f
    else if exponent ≥ 0 then none
    else scaled (f / powerOfTen 308) (exponent + 308) fuel

/-- The double `significand * 10^exponent`. A nonzero significand reaches zero after three
divisions by `10^308`. -/
def ofParts (negative : Bool) (significand : Nat) (exponent : Int) : Option Float :=
  (scaled significand.toUInt64.toFloat exponent 8).map fun f => if negative then -f else f

def clampExponent (e : Int) : Int :=
  max (-(Nat.pow 2 31)) (min e (Nat.pow 2 31 - 1))

end Number

namespace Reader

open Number

def digits : Reader (List Char) := fun c =>
  let ds := c.rest.takeWhile isDigit
  .ok ds (c.advance ds.length)

/-- The double with these parts, or the fault that it is too great. -/
def float (negative : Bool) (significand : Nat) (exponent : Int) : Reader Number :=
  match ofParts negative significand exponent with
  | some f => pure (.float f)
  | none => failHere .numberOutOfRange

def exponentSign : Reader Bool := do
  match ← peek with
  | some '-' => skip; pure true
  | some '+' => skip; pure false
  | _ => pure false

def exponent (negative : Bool) (significand : Nat) (start : Int) : Reader Number := do
  skip
  let down ← exponentSign
  match ← peek with
  | none => failHere .eofValue
  | some c =>
    if !isDigit c then failAtNext .invalidNumber
    else fun cursor =>
      let ds := cursor.rest.takeWhile isDigit
      match absorb maxExponent 0 ds with
      | (e, []) =>
        float negative significand (clampExponent (if down then start - e else start + e))
          (cursor.advance ds.length)
      | (_, dropped) =>
        if significand ≠ 0 ∧ !down then
          failHere .numberOutOfRange (cursor.advance (ds.length - dropped.length + 1))
        else .ok (.float (if negative then -0.0 else 0.0)) (cursor.advance ds.length)

def exponent? (negative : Bool) (significand : Nat) (start : Int) : Reader Number := do
  match ← peek with
  | some 'e' | some 'E' => exponent negative significand start
  | _ => float negative significand start

def fraction (negative : Bool) (significand : Nat) (start : Int) : Reader Number := do
  skip
  let ds ← digits
  if ds.isEmpty then
    match ← peek with
    | none => failHere .eofValue
    | some _ => failAtNext .invalidNumber
  else
    let (significand', dropped) := absorb maxSignificand significand ds
    exponent? negative significand' (start - (ds.length - dropped.length : Nat))

/-- What follows the integer digits, and the number with it. `dropped` digits did not fit into the
significand. -/
def afterInteger (negative : Bool) (significand dropped : Nat) : Reader Number := do
  match ← peek with
  | some '.' => fraction negative significand dropped
  | some 'e' | some 'E' => exponent negative significand dropped
  | _ =>
    if dropped ≠ 0 then float negative significand dropped
    else if !negative then pure (.int significand)
    else if significand = 0 ∨ significand > Nat.pow 2 63 then
      pure (.float (-significand.toUInt64.toFloat))
    else pure (.int (-significand))

def unsignedNumber (negative : Bool) : Reader Number := do
  match ← peek with
  | none => failHere .eofValue
  | some '0' =>
    skip
    match ← peek with
    | some d =>
      if isDigit d then failAtNext .invalidNumber else afterInteger negative 0 0
    | none => afterInteger negative 0 0
  | some c =>
    if isDigit c then
      let ds ← digits
      let (significand, dropped) := absorb maxSignificand 0 ds
      afterInteger negative significand dropped.length
    else failAtNext .invalidNumber

def number : Reader Number := do
  match ← peek with
  | some '-' => skip; unsignedNumber true
  | _ => unsignedNumber false

end Reader

end HistoryAudit.Json
