/-
  HistoryAudit.Regex.Search

  The leftmost match of a program in a byte sequence, and of the matches that
  start there the preferred one. The search tries branches in their order and
  none twice: what failed at a place fails there again, wherever the attempt
  began. Hence the number of instructions and places bounds its steps.
-/
import HistoryAudit.Regex.Program
import Std.Data.HashSet

namespace HistoryAudit.Regex

/-- A place in a byte sequence: the bytes before it, the last one first, and those behind it. -/
structure Cursor where
  offset : Nat
  before : List UInt8
  after : List UInt8
  deriving Inhabited

namespace Cursor

def advance : Nat → Cursor → Cursor
  | 0, c => c
  | n + 1, c =>
    match c.after with
    | [] => c
    | b :: rest => advance n ⟨c.offset + 1, b :: c.before, rest⟩

/-- The character behind the place, and the number of its bytes. -/
def nextChar? (c : Cursor) : Option (Char × Nat) :=
  match c.after with
  | [] => none
  | b :: bs =>
    match Text.Utf8.step b bs with
    | .char ch size => some (ch, size)
    | .broken .. => none

/-- Is the byte one that continues a character? -/
def continues (b : UInt8) : Bool := 0x80 ≤ b && b < 0xc0

/-- The character at the last place before this one at which one could start. -/
def lastChar? (c : Cursor) : Option Char :=
  let tail := ((c.before.take 3).takeWhile continues).length
  let recent := (c.before.take (tail + 1)).reverse
  match recent with
  | [] => none
  | b :: bs =>
    match Text.Utf8.step b bs with
    | .char ch _ => some ch
    | .broken .. => none

/-- Is a character of a word behind the place? No answer if there are bytes, but no character. -/
def wordAfter? (a : Alphabet) (c : Cursor) : Option Bool :=
  match a, c.after with
  | _, [] => some false
  | .bytes, b :: _ => some (wordBytes.holds b.toNat)
  | .characters, _ => (c.nextChar?).map fun (ch, _) => isWord ch
where
  isWord (ch : Char) : Bool :=
    if ch.toNat < 0x80 then wordBytes.holds ch.toNat else wordCharacters.holds ch.toNat

def wordBefore? (a : Alphabet) (c : Cursor) : Option Bool :=
  match a, c.before with
  | _, [] => some false
  | .bytes, b :: _ => some (wordBytes.holds b.toNat)
  | .characters, _ => (c.lastChar?).map wordAfter?.isWord

def sees (c : Cursor) : Look → Bool
  | .startText => c.before.isEmpty
  | .endText => c.after.isEmpty
  | .startLine crlf =>
    match c.before.head?, c.after.head? with
    | none, _ => true
    | some b, next? => b == 10 || (crlf && b == 13 && next? != some 10)
  | .endLine crlf =>
    match c.before.head?, c.after.head? with
    | _, none => true
    | last?, some b =>
      if crlf then b == 13 || (b == 10 && last? != some 13) else b == 10
  | .boundary a => (c.wordBefore? a).getD false != (c.wordAfter? a).getD false
  | .notBoundary a =>
    match c.wordBefore? a, c.wordAfter? a with
    | some x, some y => x == y
    | _, _ => false
  | .wordStart a => !(c.wordBefore? a).getD false && (c.wordAfter? a).getD false
  | .wordEnd a => (c.wordBefore? a).getD false && !(c.wordAfter? a).getD false
  | .wordStartHalf a => c.wordBefore? a == some false
  | .wordEndHalf a => c.wordAfter? a == some false

/-- The place behind one step of the set, if it takes one here. -/
def step? (c : Cursor) (a : Alphabet) (codes : Array Text.CodeRange) : Option Cursor :=
  match a with
  | .bytes =>
    match c.after with
    | b :: _ => if Text.CodeRange.holds codes b.toNat then some (c.advance 1) else none
    | [] => none
  | .characters =>
    match c.nextChar? with
    | some (ch, size) =>
      if Text.CodeRange.holds codes ch.toNat then some (c.advance size) else none
    | none => none

end Cursor

/-- A branch still to be tried: its instruction, where the attempt began, and the place. -/
structure Branch where
  instruction : Nat
  start : Nat
  cursor : Cursor

/-- Tries the branches in order. `tried` holds what was tried before, as numbers below `width` for
each instruction. -/
def Program.search (p : Program) (width : Nat) :
    (fuel : Nat) → List Branch → (tried : Std.HashSet Nat) → Option (Nat × Nat)
  | 0, _, _ => none
  | _ + 1, [], _ => none
  | fuel + 1, b :: rest, tried =>
    -- An earlier branch with the same instruction and place has priority and has failed.
    let key := b.instruction * width + b.cursor.offset
    if tried.contains key then p.search width fuel rest tried
    else
      let tried := tried.insert key
      let next (instruction : Nat) (cursor : Cursor) : Branch := ⟨instruction, b.start, cursor⟩
      match p.code.getD b.instruction .fail with
      | .done => some (b.start, b.cursor.offset)
      | .fail => p.search width fuel rest tried
      | .byte value n =>
        match b.cursor.after with
        | c :: _ =>
          if c == value then p.search width fuel (next n (b.cursor.advance 1) :: rest) tried
          else p.search width fuel rest tried
        | [] => p.search width fuel rest tried
      | .set a codes n =>
        match b.cursor.step? a codes with
        | some c => p.search width fuel (next n c :: rest) tried
        | none => p.search width fuel rest tried
      | .look kind n =>
        if b.cursor.sees kind then p.search width fuel (next n b.cursor :: rest) tried
        else p.search width fuel rest tried
      | .split first second =>
        p.search width fuel (next first b.cursor :: next second b.cursor :: rest) tried

def Cursor.all (offset : Nat) (before : List UInt8) : List UInt8 → List Cursor
  | [] => [⟨offset, before, []⟩]
  | b :: rest => ⟨offset, before, b :: rest⟩ :: Cursor.all (offset + 1) (b :: before) rest

/-- The first match: where it starts and where it ends. Each step takes a branch from the list or
tries an instruction at a place for the first time, which adds two branches at most. -/
def Program.find? (p : Program) (hay : List UInt8) : Option (Nat × Nat) :=
  let width := hay.length + 1
  let starts := (Cursor.all 0 [] hay).map fun c => ⟨p.start, c.offset, c⟩
  p.search width (width + 2 * p.code.size * width + 1) starts ∅

end HistoryAudit.Regex
