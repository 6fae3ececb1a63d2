/-
  HistoryAudit.Yaml.Plain

  What a scalar without quotes means: nothing, a truth value, a number, or else
  its text.
-/
import HistoryAudit.Text.Digits

namespace HistoryAudit.Yaml

/-- The meaning of a plain scalar. -/
inductive Plain where
  | null
  | boolean
  /-- A whole number of 64 bits without a minus. -/
  | natural (n : Nat)
  | negative
  /-- A whole number that needs 128 bits. -/
  | wide
  | real
  | text
  deriving DecidableEq

namespace Plain

def isNull (cs : List Char) : Bool :=
  ["null", "Null", "NULL", "~"].contains (String.ofList cs)

def isBoolean (cs : List Char) : Bool :=
  ["true", "True", "TRUE", "false", "False", "FALSE"].contains (String.ofList cs)

/-! ## Whole numbers -/

/-- The number behind a zero and the letter of a base. -/
def based? : List Char → Option Nat
  | '0' :: 'x' :: digits => Text.number? 16 digits
  | '0' :: 'o' :: digits => Text.number? 8 digits
  | '0' :: 'b' :: digits => Text.number? 2 digits
  | _ => none

def behindSign : List Char → List Char
  | '+' :: rest => rest
  | '-' :: rest => rest
  | cs => cs

/-- Is it a number with a zero in front, which counts as text? -/
def hasLeadingZero (cs : List Char) : Bool :=
  match behindSign cs with
  | '0' :: rest => !rest.isEmpty && rest.all Char.isDigit
  | _ => false

/-- A whole number and whether it has a minus. -/
def integer? (cs : List Char) : Option (Bool × Nat) :=
  let decimal? (digits : List Char) : Option Nat :=
    if hasLeadingZero cs then none else Text.number? 10 digits
  match cs with
  | '-' :: rest => ((based? rest).or (decimal? rest)).map fun n => (true, n)
  | '+' :: rest => ((based? rest).or (decimal? rest)).map fun n => (false, n)
  | _ => ((based? cs).or (decimal? cs)).map fun n => (false, n)

/-- The meaning of a whole number; none if even 128 bits are too few. -/
def ofInteger? : Bool × Nat → Option Plain
  | (false, n) =>
    if n < Nat.pow 2 64 then some (.natural n) else if n < Nat.pow 2 128 then some .wide else none
  | (true, n) =>
    if n ≤ Nat.pow 2 63 then some .negative else if n ≤ Nat.pow 2 127 then some .wide else none

/-! ## Other numbers -/

/-- Does `significand * 10^exponent` round to a finite double? A number of `places` digits is less
than `10^places`, and one from `10^310` on is too great. -/
def isFinite (significand places : Nat) (exponent : Int) : Bool :=
  if significand = 0 then true
  else if 0 ≤ exponent then
    exponent < 310 && significand * Nat.pow 10 exponent.toNat < Nat.pow 2 1024 - Nat.pow 2 970
  else
    (places : Int) ≤ -exponent ||
      significand < (Nat.pow 2 1024 - Nat.pow 2 970) * Nat.pow 10 (-exponent).toNat

/-- The exponent at the end of a number, zero if there is none. -/
def exponent? : List Char → Option Int
  | [] => some 0
  | e :: rest =>
    if e = 'e' ∨ e = 'E' then
      let n? := Text.number? 10 (behindSign rest)
      if rest.head? = some '-' then n?.map fun n => -(n : Int) else n?.map Int.ofNat
    else none

/-- Is it a decimal number with a finite double next to it? -/
def isDecimal (cs : List Char) : Bool :=
  let whole := cs.takeWhile Char.isDigit
  let behind := cs.dropWhile Char.isDigit
  let fraction := if behind.head? = some '.' then behind.tail.takeWhile Char.isDigit else []
  let behind := if behind.head? = some '.' then behind.tail.dropWhile Char.isDigit else behind
  match Text.number? 10 (whole ++ fraction), exponent? behind with
  | some significand, some exponent =>
    isFinite significand (whole.length + fraction.length) (exponent - fraction.length)
  | _, _ => false

def isReal (cs : List Char) : Bool :=
  let unsigned := if cs.head? = some '+' then cs.tail else cs
  [".inf", ".Inf", ".INF"].contains (String.ofList unsigned) ||
    ["-.inf", "-.Inf", "-.INF", ".nan", ".NaN", ".NAN"].contains (String.ofList cs) ||
    isDecimal (behindSign cs)

def ofText (cs : List Char) : Plain :=
  if cs.isEmpty || isNull cs then .null
  else if isBoolean cs then .boolean
  else
    match (integer? cs).bind ofInteger? with
    | some p => p
    | none => if !hasLeadingZero cs && isReal cs then .real else .text

end Plain

end HistoryAudit.Yaml
