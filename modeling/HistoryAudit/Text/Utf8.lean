/-
  HistoryAudit.Text.Utf8

  UTF-8 bytes as text. One step reads a character or finds the longest start of
  one that cannot be continued; the strict reading reports that place, and the
  lenient reading writes U+FFFD for it.
-/

namespace HistoryAudit.Text.Utf8

def encode (s : String) : List UInt8 :=
  s.toList.flatMap String.utf8EncodeChar

/-- What stands at the front of a byte sequence. -/
inductive Step where
  | char (c : Char) (size : Nat)
  /-- So many bytes are the start of no character. `cut`: only because the input ended. -/
  | broken (size : Nat) (cut : Bool)
  deriving DecidableEq

/-- A continuation byte may have the values `lo` to `hi`. -/
structure Tail where
  lo : Nat
  hi : Nat

def Tail.plain : Tail := ⟨0x80, 0xbf⟩

/-- Reads the continuation bytes `tails` after `size` bytes with the value `acc`. -/
def continuation : List Tail → (acc size : Nat) → List UInt8 → Step
  | [], acc, size, _ => .char (Char.ofNat acc) size
  | _ :: _, _, size, [] => .broken size true
  | t :: ts, acc, size, b :: bs =>
    if t.lo ≤ b.toNat ∧ b.toNat ≤ t.hi then
      continuation ts (acc * 64 + (b.toNat - 0x80)) (size + 1) bs
    else .broken size false

/-- What a first byte says: the continuation bytes to come, and its share of the value. The second
byte is restricted so that no character has two encodings and none encodes a surrogate or a value
above U+10FFFF. -/
def lead? (b : UInt8) : Option (List Tail × Nat) :=
  let n := b.toNat
  let plain := Tail.plain
  if n < 0x80 then some ([], n)
  else if n < 0xc2 then none
  else if n < 0xe0 then some ([plain], n - 0xc0)
  else if n < 0xf0 then
    let second : Tail := if n = 0xe0 then ⟨0xa0, 0xbf⟩ else if n = 0xed then ⟨0x80, 0x9f⟩ else plain
    some ([second, plain], n - 0xe0)
  else if n < 0xf5 then
    let second : Tail := if n = 0xf0 then ⟨0x90, 0xbf⟩ else if n = 0xf4 then ⟨0x80, 0x8f⟩ else plain
    some ([second, plain, plain], n - 0xf0)
  else none

def step (b : UInt8) (bs : List UInt8) : Step :=
  match lead? b with
  | some (tails, acc) => continuation tails acc 1 bs
  | none => .broken 1 false

/-- Where a byte sequence stops being text. -/
structure Break where
  offset : Nat
  /-- The length of the part that fits no character, unless the input only ends too early. -/
  size? : Option Nat
  deriving DecidableEq

def Break.message (b : Break) : String :=
  match b.size? with
  | some n => s!"invalid utf-8 sequence of {n} bytes from index {b.offset}"
  | none => s!"incomplete utf-8 byte sequence from index {b.offset}"

/-- The characters of a byte sequence; `fuel` is at least its length. -/
def decodeFrom : (fuel offset : Nat) → List UInt8 → Except Break (List Char)
  | 0, _, _ => .ok []
  | _ + 1, _, [] => .ok []
  | fuel + 1, offset, b :: bs =>
    match step b bs with
    | .char c size =>
      match decodeFrom fuel (offset + size) (bs.drop (size - 1)) with
      | .ok cs => .ok (c :: cs)
      | .error e => .error e
    | .broken size cut => .error ⟨offset, if cut then none else some size⟩

def decode (bytes : List UInt8) : Except Break String :=
  match decodeFrom bytes.length 0 bytes with
  | .ok cs => .ok (String.ofList cs)
  | .error e => .error e

/-- The lenient reading; `fuel` is at least the length. -/
def lossyFrom : (fuel : Nat) → List UInt8 → List Char
  | 0, _ => []
  | _ + 1, [] => []
  | fuel + 1, b :: bs =>
    match step b bs with
    | .char c size => c :: lossyFrom fuel (bs.drop (size - 1))
    | .broken size _ => '\ufffd' :: lossyFrom fuel (bs.drop (size - 1))

/-- The text of the bytes, with U+FFFD for each longest part that fits no character. -/
def lossy (bytes : List UInt8) : String :=
  String.ofList (lossyFrom bytes.length bytes)

end HistoryAudit.Text.Utf8
