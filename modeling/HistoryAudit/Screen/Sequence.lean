/-
  HistoryAudit.Screen.Sequence

  The bytes that a shell writes, taken apart: characters, controls, and escape
  sequences with their parameters. The decoder takes one byte at a time and may
  stop anywhere, so a sequence may arrive in pieces.
-/
import HistoryAudit.Text.Utf8

namespace HistoryAudit.Screen

/-- What the bytes mean. -/
inductive Signal where
  | print (c : Char)
  | control (code : Nat)
  /-- An escape sequence: the bytes between, and the last one. -/
  | escape (between : List Nat) (final : Char)
  /-- A control sequence: the marks, the parameters with their parts, and the last byte. -/
  | command (marks : List Nat) (params : List (List Nat)) (final : Char)
  deriving DecidableEq

structure Params where
  done : List (List Nat) := []
  parts : List Nat := []
  value : Nat := 0
  deriving DecidableEq

namespace Params

/-- A sequence has at most so many numbers. -/
def capacity : Nat := 32

def largest : Nat := 65535

def full (p : Params) : Bool := p.done.flatten.length + p.parts.length ≥ capacity

/-- Takes a digit, a colon between parts, or a semicolon between parameters. -/
def take (p : Params) (b : Nat) : Params :=
  if p.full then p
  else if b = 0x3b then ⟨p.done ++ [p.parts ++ [p.value]], [], 0⟩
  else if b = 0x3a then ⟨p.done, p.parts ++ [p.value], 0⟩
  else { p with value := min (min (p.value * 10) largest + (b - 0x30)) largest }

def finish (p : Params) : List (List Nat) :=
  if p.full then (if p.parts.isEmpty then p.done else p.done ++ [p.parts])
  else p.done ++ [p.parts ++ [p.value]]

end Params

/-- A sequence has at most two marks. -/
def addMark (marks : List Nat) (b : Nat) : List Nat :=
  if marks.length ≥ 2 then marks else marks ++ [b]

inductive Decoder where
  | ground
  /-- In a character: the bytes to come, and the value so far. -/
  | character (tails : List Text.Utf8.Tail) (value : Nat)
  | escape (between : List Nat)
  /-- In a control sequence. `start`: nothing but the bracket was read; `late`: marks were read
  behind the parameters. -/
  | command (start late : Bool) (marks : List Nat) (params : Params)
  /-- In a control sequence that means nothing. -/
  | ignored
  | device (start late : Bool)
  | string
  /-- In an operating system command, up to the bell. -/
  | system

namespace Decoder

/-- Printing bytes and controls outside sequences. -/
def atGround (b : UInt8) : Decoder × Option Signal :=
  let n := b.toNat
  if n < 0x20 then (.ground, some (.control n))
  else
    match Text.Utf8.lead? b with
    | some ([], value) => (.ground, some (.print (Char.ofNat value)))
    | some (tails, value) => (.character tails value, none)
    | none => (.ground, none)

/-- A byte in a character. A byte that does not fit is lost with the character. -/
def inCharacter (tails : List Text.Utf8.Tail) (value : Nat) (b : UInt8) :
    Decoder × Option Signal :=
  let n := b.toNat
  match tails with
  | [] => (.ground, none)
  | t :: rest =>
    if t.lo ≤ n ∧ n ≤ t.hi then
      let value := value * 64 + (n - 0x80)
      if rest.isEmpty then (.ground, some (.print (Char.ofNat value)))
      else (.character rest value, none)
    else (.ground, some (.print '\ufffd'))

def inEscape (between : List Nat) (n : Nat) : Decoder × Option Signal :=
  if n < 0x20 then (.escape between, some (.control n))
  else if n < 0x30 then (.escape (addMark between n), none)
  else if n ≥ 0x7f then (.escape between, none)
  else if between.isEmpty then
    if n = 0x5b then (.command true false [] {}, none)
    else if n = 0x5d then (.system, none)
    else if n = 0x50 then (.device true false, none)
    else if n = 0x58 ∨ n = 0x5e ∨ n = 0x5f then (.string, none)
    else (.ground, some (.escape between (Char.ofNat n)))
  else (.ground, some (.escape between (Char.ofNat n)))

def inCommand (start late : Bool) (marks : List Nat) (params : Params) (n : Nat) :
    Decoder × Option Signal :=
  if n < 0x20 then (.command start late marks params, some (.control n))
  else if n < 0x30 then (.command false true (addMark marks n) params, none)
  else if n < 0x40 then
    if late then (.ignored, none)
    else if n < 0x3c then (.command false false marks (params.take n), none)
    else if start then (.command false false (addMark marks n) params, none)
    else (.ignored, none)
  else if n < 0x7f then (.ground, some (.command marks params.finish (Char.ofNat n)))
  else (.command start late marks params, none)

def inDevice (start late : Bool) (n : Nat) : Decoder × Option Signal :=
  if n < 0x20 ∨ n ≥ 0x7f then (.device start late, none)
  else if n < 0x30 then (.device false true, none)
  else if n < 0x40 ∧ !late ∧ (n < 0x3c ∨ start) then (.device false false, none)
  else (.string, none)

/-- Takes a byte. Cancelling and escaping work everywhere but inside a character. -/
def step (d : Decoder) (b : UInt8) : Decoder × Option Signal :=
  let n := b.toNat
  match d with
  | .character tails value => inCharacter tails value b
  | _ =>
    if n = 0x18 ∨ n = 0x1a then (.ground, some (.control n))
    else if n = 0x1b then (.escape [], none)
    else
      match d with
      | .ground => atGround b
      | .character .. => (d, none)
      | .escape between => inEscape between n
      | .command start late marks params => inCommand start late marks params n
      | .ignored =>
        if n < 0x20 then (.ignored, some (.control n))
        else if 0x40 ≤ n ∧ n < 0x7f then (.ground, none)
        else (.ignored, none)
      | .device start late => inDevice start late n
      | .string => (if n = 0x9c then .ground else .string, none)
      | .system => (if n = 0x07 then .ground else .system, none)

end Decoder

end HistoryAudit.Screen
