/-
  HistoryAudit.Regex.Size

  The measure of a pattern that is limited: the bytes that two automata take,
  one that reads forwards and one that reads backwards. A state takes 32 bytes,
  a transition of a state with several 8 more, and a branch of a choice 4. Sets
  of characters become automata over the bytes of UTF-8.
-/
import HistoryAudit.Regex.Node
import Std.Data.HashMap

namespace HistoryAudit.Regex

open Text (CodeRange CodeSet)

namespace Utf8Ranges

/-- The largest code point with one, two, three and four bytes. -/
def lengthLimits : List Nat := [0x7f, 0x7ff, 0xffff, 0x10ffff]

/-- Cuts a range at the limits, so that all members of a piece have encodings of one length. -/
def cutAt : List Nat → CodeRange → List CodeRange
  | [], r => [r]
  | limit :: rest, r =>
    if r.lo ≤ limit ∧ limit < r.hi then ⟨r.lo, limit⟩ :: cutAt rest ⟨limit + 1, r.hi⟩
    else cutAt rest r

/-- Cuts a range where the last `bits` bits of one of its ends are not at their limit, so that
the pieces are products of byte ranges. -/
def cutBits : (levels : Nat) → (bits : Nat) → CodeRange → List CodeRange
  | 0, _, r => [r]
  | levels + 1, bits, r =>
    let mask := Nat.pow 2 bits
    if r.lo / mask ≠ r.hi / mask then
      if r.lo % mask ≠ 0 then
        let middle := r.lo - r.lo % mask + mask - 1
        cutBits levels (bits + 6) ⟨r.lo, middle⟩ ++ cutUpper levels bits ⟨middle + 1, r.hi⟩
      else cutUpper levels bits r
    else cutBits levels (bits + 6) r
where
  /-- The same for a range that starts at a limit. -/
  cutUpper (levels bits : Nat) (r : CodeRange) : List CodeRange :=
    let mask := Nat.pow 2 bits
    if r.lo / mask ≠ r.hi / mask ∧ r.hi % mask ≠ mask - 1 then
      let middle := r.hi - r.hi % mask
      cutBits levels (bits + 6) ⟨r.lo, middle - 1⟩ ++ cutBits levels (bits + 6) ⟨middle, r.hi⟩
    else cutBits levels (bits + 6) r

def bytesOf (r : CodeRange) : List CodeRange :=
  let lo := Text.Utf8.encode (String.singleton (Char.ofNat r.lo))
  let hi := Text.Utf8.encode (String.singleton (Char.ofNat r.hi))
  lo.zipWith (fun a b => ⟨a.toNat, b.toNat⟩) hi

/-- The sequences of byte ranges that encode a set of characters. -/
def ofSet (s : CodeSet) : List (List CodeRange) :=
  let pieces := (CodeSet.inter s CodeSet.characters).flatMap (cutAt lengthLimits)
  (pieces.flatMap (cutBits 3 6)).map bytesOf

end Utf8Ranges

abbrev Bytes := Nat

def states (n : Nat) : Bytes := 32 * n

def transitions (n : Nat) : Bytes := 8 * n

def branches (n : Nat) : Bytes := 4 * n

/-- Sorted sequences by their first range. -/
def byFirst : List (List CodeRange) → List (CodeRange × List (List CodeRange))
  | [] => []
  | seq :: rest =>
    match seq, byFirst rest with
    | [], groups => groups
    | r :: tail, (s, tails) :: groups =>
      if r == s then (s, tail :: tails) :: groups else (r, [tail]) :: (s, tails) :: groups
    | r :: tail, [] => [(r, [tail])]

/-- The states of an automaton that reads forwards, by their transitions. -/
abbrev StateTable := Std.HashMap (List (Nat × Nat × Nat)) Nat

/-- The state that takes the sequences, equal states being shared; zero is the last state. `depth`
is at least their length. -/
def shareState : (depth : Nat) → List (List CodeRange) → StateM StateTable Nat
  | 0, _ => return 0
  | depth + 1, seqs => do
    let groups := byFirst seqs
    if groups.isEmpty then return 0
    let edges ← groups.mapM fun (r, tails) => do
      return (r.lo, r.hi, ← shareState depth tails)
    -- States with the same transitions are one state.
    let table ← get
    match table[edges]? with
    | some id => return id
    | none =>
      let id := table.size + 1
      set (table.insert edges id)
      return id

def forwardSet (s : CodeSet) : Bytes :=
  let (_, table) := (shareState 5 (Utf8Ranges.ofSet s)).run ∅
  let edges := table.toList.flatMap (·.1)
  states (table.size + 1) + transitions edges.length

def starts (seq : List CodeRange) : List (List CodeRange) :=
  (List.range seq.length).map fun n => seq.take (n + 1)

/-- The size of a set of characters, reading backwards: starts of encodings are shared. -/
def backwardSet (s : CodeSet) : Bytes :=
  let seqs := Utf8Ranges.ofSet s
  let shared : Std.HashMap (List (Nat × Nat)) Unit :=
    (seqs.flatMap starts).foldl (fun m seq => m.insert (seq.map fun r => (r.lo, r.hi)) ()) ∅
  states (shared.size + 2) + branches seqs.length

def setSize (backward : Bool) (a : Alphabet) (s : CodeSet) : Bytes :=
  match a, s with
  | _, [] => states 1
  | .bytes, [r] => if r.lo = r.hi then states 1 else states 2 + transitions 1
  | .bytes, s => states 2 + transitions s.length
  | .characters, s =>
    if s.all fun r => r.hi < 0x80 then
      match s with
      | [r] => if r.lo = r.hi then states 1 else states 2 + transitions 1
      | s => states 2 + transitions s.length
    else if backward then backwardSet s else forwardSet s

mutual

/-- Does the pattern match without a step? -/
def Node.nullable : Node → Bool
  | .empty | .look _ => true
  | .literal bytes => bytes.isEmpty
  | .set .. => false
  | .repeats least _ _ node => least == 0 || node.nullable
  | .capture node => node.nullable
  | .cat nodes => Node.allNullable nodes
  | .alt nodes => Node.anyNullable nodes

def Node.allNullable : List Node → Bool
  | [] => true
  | node :: rest => node.nullable && Node.allNullable rest

def Node.anyNullable : List Node → Bool
  | [] => false
  | node :: rest => node.nullable || Node.anyNullable rest

end

def repeatSize (least : Nat) (most? : Option Nat) (nullable : Bool) (part : Bytes) : Bytes :=
  match most? with
  | none =>
    if least = 0 then
      if nullable then part + states 3 + branches 4 else part + states 1 + branches 2
    else least * part + states 1 + branches 2
  | some most =>
    if most = 0 then states 1
    else if least = 1 ∧ most = 1 then part
    else if least = most then least * part
    else
      most * part + states ((if least = 0 then 1 else 0) + 1 + (most - least)) +
        branches (2 * (most - least))

mutual

/-- The size of a pattern in one direction; capturing takes states only forwards. -/
def Node.size (backward : Bool) : Node → Bytes
  | .empty => states 1
  | .literal bytes => states bytes.length
  | .set a codes => setSize backward a codes
  | .look _ => states 1
  | .repeats least most? _ node => repeatSize least most? node.nullable (node.size backward)
  | .capture node => node.size backward + (if backward then 0 else states 2)
  | .cat nodes => Node.sizeOfAll backward nodes
  | .alt nodes => Node.sizeOfAll backward nodes + states 2 + branches nodes.length

def Node.sizeOfAll (backward : Bool) : List Node → Bytes
  | [] => 0
  | node :: rest => node.size backward + Node.sizeOfAll backward rest

end

/-- The size of a whole pattern: also with the search for a start, and the states around it. -/
def Node.totalSize (node : Node) : Bytes :=
  max (node.size false + states 6 + branches 2 + transitions 1)
    (node.size true + states 4 + branches 2 + transitions 1)

end HistoryAudit.Regex
