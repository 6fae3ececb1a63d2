/-
  HistoryAudit.Pattern.Template

  Prompts with a number: a text before the number and one behind it. An
  occurrence is the first text, as many digits as leave room for the second
  text, and the second text. Occurrences are taken one behind the other, without
  overlap, and those with too small a number are passed over.
-/
import HistoryAudit.Config.Shell
import HistoryAudit.Regex.Escape
import HistoryAudit.Text.Utf8

namespace HistoryAudit.Pattern

/-- A part of a byte sequence: so many bytes before it, and its length. -/
structure Extent where
  start : Nat
  length : Nat
  deriving DecidableEq, Repr

structure Template where
  before : String
  after : String
  deriving DecidableEq, Repr

namespace Template

/-- The two sides of the first counter mark, if there is one. -/
def ofPrompt? (prompt : String) : Option Template :=
  let cs := prompt.toList
  let mark := Config.counterMark.toList
  (Text.findFirst? mark cs).map fun i =>
    ⟨String.ofList (cs.take i), String.ofList (cs.drop (i + mark.length))⟩

/-- A text as a regular expression that matches just this text. -/
def escape (s : String) : String :=
  String.ofList (s.toList.flatMap fun c =>
    if Regex.metaCharacters.contains c then ['\\', c] else [c])

/-- The regular expression that describes the occurrences. -/
def source (t : Template) : String := escape t.before ++ "([0-9]+)" ++ escape t.after

def isDigit (b : UInt8) : Bool := 48 ≤ b && b ≤ 57

/-- The number that digits write, if it fits 64 bits. -/
def number? (digits : List UInt8) : Option Nat :=
  let n := digits.foldl (fun n b => n * 10 + (b.toNat - 48)) 0
  if digits ≠ [] ∧ n < Nat.pow 2 64 then some n else none

structure Occurrence where
  length : Nat
  digits : List UInt8
  deriving DecidableEq

def Occurrence.number? (o : Occurrence) : Option Nat := Template.number? o.digits

/-- How many of the first `count` bytes of `run` are the digits: as many as possible, at least
one, so that `after` follows. -/
def digitCount? (after run : List UInt8) : (count : Nat) → Option Nat
  | 0 => none
  | n + 1 =>
    if Text.startsWith after (run.drop (n + 1)) then some (n + 1) else digitCount? after run n

def front? (t : Template) (hay : List UInt8) : Option Occurrence :=
  let before := Text.Utf8.encode t.before
  let after := Text.Utf8.encode t.after
  if Text.startsWith before hay then
    let run := hay.drop before.length
    (digitCount? after run (run.takeWhile isDigit).length).map fun n =>
      ⟨before.length + n + after.length, run.take n⟩
  else none

/-- The occurrences behind the next `skip` bytes, each with the bytes before it. -/
def occurrencesFrom (t : Template) : (skip offset : Nat) → List UInt8 → List (Nat × Occurrence)
  | _, _, [] => []
  | skip + 1, offset, _ :: rest => occurrencesFrom t skip (offset + 1) rest
  | 0, offset, b :: rest =>
    match t.front? (b :: rest) with
    | some o => (offset, o) :: occurrencesFrom t (o.length - 1) (offset + 1) rest
    | none => occurrencesFrom t 0 (offset + 1) rest

/-- The occurrences in a byte sequence, from left to right and without overlap. -/
def occurrences (t : Template) (hay : List UInt8) : List (Nat × Occurrence) :=
  t.occurrencesFrom 0 0 hay

/-- The first occurrence with a number of at least `least`. -/
def find? (t : Template) (least : Nat) (hay : List UInt8) : Option Extent :=
  ((t.occurrences hay).find? fun (_, o) => o.number?.any (least ≤ ·)).map fun (start, o) =>
    ⟨start, o.length⟩

def firstNumber? (t : Template) (hay : List UInt8) : Option Nat :=
  (t.occurrences hay).head?.bind fun (_, o) => o.number?

end Template

end HistoryAudit.Pattern
