/-
  HistoryAudit.Json.Text

  Strings in a JSON text: reading one behind its opening quote, and writing one.
  A character beyond U+FFFF may be written as a pair of surrogates; a surrogate
  alone is no character.
-/
import HistoryAudit.Json.Cursor
import HistoryAudit.Text.CodeRange

namespace HistoryAudit.Json

namespace Escape

/-- The characters of the escapes with one letter. -/
def plain? (c : Char) : Option Char :=
  if c = '"' then some '"'
  else if c = '\\' then some '\\'
  else if c = '/' then some '/'
  else if c = 'b' then some '\x08'
  else if c = 'f' then some '\x0c'
  else if c = 'n' then some '\n'
  else if c = 'r' then some '\r'
  else if c = 't' then some '\t'
  else none

def hex4? (a b c d : Char) : Option Nat := do
  let a ← Text.hexDigit? a
  let b ← Text.hexDigit? b
  let c ← Text.hexDigit? c
  let d ← Text.hexDigit? d
  return ((a * 16 + b) * 16 + c) * 16 + d

def byteCount (cs : List Char) : Nat :=
  cs.foldl (fun n c => n + c.utf8Size) 0

/-- Is `n` the first half of a pair of surrogates? -/
def isHigh (n : Nat) : Bool := 0xd800 ≤ n && n ≤ 0xdbff

/-- Is `n` the second half of a pair of surrogates? -/
def isLow (n : Nat) : Bool := 0xdc00 ≤ n && n ≤ 0xdfff

def paired (high low : Nat) : Char :=
  Char.ofNat ((high - 0xd800) * 0x400 + (low - 0xdc00) + 0x10000)

end Escape

namespace Reader

open Escape

/-- Four hexadecimal digits. Four bytes are taken before they are looked at. -/
def hex4 : Reader Nat := fun c =>
  match c.rest with
  | a :: b :: d :: e :: _ =>
    match hex4? a b d e with
    | some n => .ok n (c.advance 4)
    | none => .error ⟨.invalidEscape, some (c.place.behind 4 c.rest)⟩ c
  | cs =>
    if byteCount cs < 4 then .error ⟨.eofString, some (c.place.afterAll cs)⟩ c
    else .error ⟨.invalidEscape, some (c.place.behind 4 cs)⟩ c

/-- Passes the character that must follow inside a pair of surrogates. -/
def pairPart (expected : Char) : Reader Unit := do
  match ← peek with
  | none => failHere .eofString
  | some c => if c = expected then skip else failAtNext .brokenSurrogatePair

/-- The character that a number escape means, its letter passed. -/
def codeEscape : Reader Char := do
  let n ← hex4
  if isLow n then failHere .loneSurrogate
  else if isHigh n then
    pairPart '\\'
    pairPart 'u'
    let m ← hex4
    if isLow m then pure (paired n m) else failHere .loneSurrogate
  else pure (Char.ofNat n)

def escape : Reader Char := do
  match ← peek with
  | none => failHere .eofString
  | some 'u' => skip; codeEscape
  | some c =>
    match plain? c with
    | some d => skip; pure d
    | none => failAtNext .invalidEscape

/-- Passes an escape without asking which character it means. -/
def skipEscape : Reader Unit := do
  match ← peek with
  | none => failHere .eofString
  | some 'u' => skip; let _ ← hex4
  | some c => if (plain? c).isSome then skip else failAtNext .invalidEscape

/-- The characters up to the closing quote; `fuel` is more than the characters left. -/
def stringFrom : (fuel : Nat) → (read : List Char) → Reader String
  | 0, _ => failHere .eofString
  | fuel + 1, read => do
    match ← peek with
    | none => failHere .eofString
    | some c =>
      if c = '"' then do skip; pure (String.ofList read.reverse)
      else if c = '\\' then do skip; stringFrom fuel ((← escape) :: read)
      else if c.toNat < 0x20 then failAtNext .controlCharacter
      else do skip; stringFrom fuel (c :: read)

def string : Reader String := fun c => stringFrom (c.rest.length + 1) [] c

/-- Passes a string behind its opening quote; `fuel` is more than the characters left. -/
def skipStringFrom : (fuel : Nat) → Reader Unit
  | 0 => failHere .eofString
  | fuel + 1 => do
    match ← peek with
    | none => failHere .eofString
    | some c =>
      if c = '"' then skip
      else if c = '\\' then do skip; skipEscape; skipStringFrom fuel
      else if c.toNat < 0x20 then failHere .controlCharacter
      else do skip; skipStringFrom fuel

def skipString : Reader Unit := fun c => skipStringFrom (c.rest.length + 1) c

end Reader

namespace Escape

/-- How a character is written in a string: a backslash before quote and backslash, letters for the
common control characters and numbers for the others. -/
def encode (c : Char) : List Char :=
  if c = '"' then ['\\', '"']
  else if c = '\\' then ['\\', '\\']
  else if c = '\x08' then ['\\', 'b']
  else if c = '\x0c' then ['\\', 'f']
  else if c = '\n' then ['\\', 'n']
  else if c = '\r' then ['\\', 'r']
  else if c = '\t' then ['\\', 't']
  else if c.toNat < 0x20 then
    ['\\', 'u', '0', '0', if c.toNat < 0x10 then '0' else '1', Nat.digitChar (c.toNat % 16)]
  else [c]

end Escape

def writeString (s : String) : List Char :=
  '"' :: s.toList.flatMap Escape.encode ++ ['"']

end HistoryAudit.Json
