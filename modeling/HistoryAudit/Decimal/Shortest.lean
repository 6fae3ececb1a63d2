/-
  HistoryAudit.Decimal.Shortest

  The shortest decimal that reads back as a given binary number. A positive
  double is `m * 2^q`; the reals that round to it form an interval around it, and
  of all decimal grids the coarsest with a point in that interval gives the
  digits. Everything is exact arithmetic on natural numbers.
-/

namespace HistoryAudit.Decimal

/-- A decimal number `digits * 10^exponent`. -/
structure Scientific where
  digits : Nat
  exponent : Int
  deriving DecidableEq, Repr

/-- A positive binary number and the reals that round to it, over a common denominator. -/
structure Rounding where
  low : Nat
  value : Nat
  high : Nat
  den : Nat
  /-- Do the two ends round to the value too? -/
  closed : Bool

/-- The interval around `m * 2^q`. Below a power of two the numbers lie twice as close, unless the
exponent is the least one already. -/
def Rounding.of (m : Nat) (q : Int) : Rounding :=
  let up := Nat.pow 2 (q - 2).toNat
  let gap := if m = Nat.pow 2 52 ∧ q > -1074 then 1 else 2
  ⟨(4 * m - gap) * up, 4 * m * up, (4 * m + 2) * up, Nat.pow 2 (2 - q).toNat, m % 2 = 0⟩

/-- The number of decimal digits before the point of `n / d`. -/
def wholeDigits (n d : Nat) : Nat :=
  (Nat.toDigits 10 (n / d)).length

/-- The least `k` from `start` with `n * 10^k ≥ d`; `fuel` bounds the search. -/
def leadingZeros (n d : Nat) : (fuel start : Nat) → Nat
  | 0, k => k
  | fuel + 1, k => if n * Nat.pow 10 k ≥ d then k else leadingZeros n d fuel (k + 1)

/-- The exponent of the leading decimal digit. -/
def Rounding.magnitude (r : Rounding) : Int :=
  if r.value ≥ r.den then (wholeDigits r.value r.den : Int) - 1
  else -(leadingZeros r.value r.den 400 1 : Int)

def Rounding.holds (r : Rounding) (t : Nat) (g : Int) : Bool :=
  let up := Nat.pow 10 (-g).toNat
  let point := t * r.den * Nat.pow 10 g.toNat
  if r.closed then r.low * up ≤ point && point ≤ r.high * up
  else r.low * up < point && point < r.high * up

/-- The point of the grid of step `10^g` that rounds to the value and lies nearest to it. -/
def Rounding.gridPoint? (r : Rounding) (g : Int) : Option Nat :=
  let n := r.value * Nat.pow 10 (-g).toNat
  let d := r.den * Nat.pow 10 g.toNat
  let below := n / d
  let rest := n % d
  match r.holds below g && below != 0, r.holds (below + 1) g with
  | true, true =>
    if 2 * rest < d ∨ (2 * rest = d ∧ below % 2 = 0) then some below else some (below + 1)
  | true, false => some below
  | false, true => some (below + 1)
  | false, false => none

/-- Tries the grids from coarse to fine; seventeen digits always suffice. -/
def Rounding.coarsest (r : Rounding) : (tries : Nat) → (g : Int) → Scientific
  | 0, g => ⟨0, g⟩
  | tries + 1, g =>
    match r.gridPoint? g with
    | some t => ⟨t, g⟩
    | none => r.coarsest tries (g - 1)

def Scientific.trim : (fuel : Nat) → Scientific → Scientific
  | 0, s => s
  | fuel + 1, s =>
    if s.digits ≠ 0 ∧ s.digits % 10 = 0 then trim fuel ⟨s.digits / 10, s.exponent + 1⟩ else s

/-- The shortest decimal that rounds to `m * 2^q`. -/
def shortest (m : Nat) (q : Int) : Scientific :=
  let r := Rounding.of m q
  (r.coarsest 18 r.magnitude).trim 20

/-- Significand and exponent of a positive finite double, read off its bits. -/
def parts (bits : UInt64) : Nat × Int :=
  let fraction : Nat := bits.toNat % Nat.pow 2 52
  let field : Nat := bits.toNat / Nat.pow 2 52 % Nat.pow 2 11
  if field = 0 then (fraction, -1074) else (fraction + Nat.pow 2 52, (field : Int) - 1075)

/-- The digits of `s` with a point after the first `whole` of them; zeros fill the gaps. -/
def positional (s : Scientific) : String :=
  let ds := Nat.toDigits 10 s.digits
  let whole := (ds.length : Int) + s.exponent
  if s.exponent ≥ 0 then
    String.ofList (ds ++ List.replicate s.exponent.toNat '0' ++ ['.', '0'])
  else if whole > 0 then
    String.ofList (ds.take whole.toNat ++ '.' :: ds.drop whole.toNat)
  else String.ofList ('0' :: '.' :: List.replicate (-whole).toNat '0' ++ ds)

def scientific (s : Scientific) : String :=
  let ds := Nat.toDigits 10 s.digits
  let exponent := (ds.length : Int) + s.exponent - 1
  let mantissa := match ds with
    | d :: e :: rest => String.ofList (d :: '.' :: e :: rest)
    | _ => String.ofList ds
  if exponent < 0 then s!"{mantissa}e-{exponent.natAbs}" else s!"{mantissa}e+{exponent.natAbs}"

/-- A finite double as text: the fewest digits that read back; positional from `1e-5` up to but
not including `1e16`. -/
def text (f : Float) : String :=
  let bits := f.toBits
  let sign := if bits.toNat ≥ Nat.pow 2 63 then "-" else ""
  let magnitude := bits &&& 0x7fffffffffffffff
  if magnitude = 0 then sign ++ "0.0"
  else
    let (m, q) := parts magnitude
    let s := shortest m q
    let exponent := ((Nat.toDigits 10 s.digits).length : Int) + s.exponent - 1
    sign ++ (if -5 ≤ exponent ∧ exponent < 16 then positional s else scientific s)

end HistoryAudit.Decimal
