/-
  HistoryAudit.Regex.Program

  Patterns as programs for a search. An instruction takes a step, looks around,
  or splits in two, the first branch being preferred. `Node.program` writes a
  program from its end: every part knows the instruction behind it.
-/
import HistoryAudit.Regex.Node

namespace HistoryAudit.Regex

/-- An instruction; numbers are indices of instructions. -/
inductive Instruction where
  | done
  | fail
  | byte (b : UInt8) (next : Nat)
  | set (alphabet : Alphabet) (codes : Array Text.CodeRange) (next : Nat)
  | look (kind : Look) (next : Nat)
  | split (first second : Nat)
  deriving Inhabited

/-- Instructions, and the one to start with. -/
structure Program where
  code : Array Instruction
  start : Nat

/-- Writes a part in front of an instruction: takes the index of that one and the instructions so
far, gives the index of the part's first instruction and the instructions with the part. -/
abbrev Emitter := Nat → Array Instruction → Nat × Array Instruction

namespace Emitter

def nothing : Emitter := fun next code => (next, code)

def one (make : Nat → Instruction) : Emitter := fun next code => (code.size, code.push (make next))

def seq (a b : Emitter) : Emitter := fun next code =>
  let (middle, code) := b next code
  a middle code

/-- One part or another, the first being preferred. -/
def either (a b : Emitter) : Emitter := fun next code =>
  let (first, code) := a next code
  let (second, code) := b next code
  (code.size, code.push (.split first second))

/-- A choice between going on with a part and leaving it, in the order of preference. -/
def choice (greedy : Bool) (into out : Nat) : Instruction :=
  if greedy then .split into out else .split out into

def optional (greedy : Bool) (a : Emitter) : Emitter := fun next code =>
  let (first, code) := a next code
  (code.size, code.push (choice greedy first next))

/-- The part once or more often: behind it stands a choice that leads back. -/
def plus (greedy : Bool) (a : Emitter) : Emitter := fun next code =>
  let loop := code.size
  let (first, code) := a loop (code.push .fail)
  (first, code.setIfInBounds loop (choice greedy first next))

def times : Nat → Emitter → Emitter
  | 0, _ => nothing
  | n + 1, a => seq a (times n a)

def upTo (greedy : Bool) : Nat → Emitter → Emitter
  | 0, _ => nothing
  | n + 1, a => fun next code =>
    let (rest, code) := upTo greedy n a next code
    let (first, code) := a rest code
    (code.size, code.push (choice greedy first next))

/-- The part between `least` and `most?` times. -/
def repeats (least : Nat) (most? : Option Nat) (greedy : Bool) (a : Emitter) : Emitter :=
  match most?, least with
  | none, 0 => optional greedy (plus greedy a)
  | none, n + 1 => seq (times n a) (plus greedy a)
  | some most, least => seq (times least a) (upTo greedy (most - least) a)

end Emitter

mutual

def Node.emitter : Node → Emitter
  | .empty => Emitter.nothing
  | .literal bytes => bytes.foldr (fun b rest => (Emitter.one (.byte b)).seq rest) Emitter.nothing
  | .set alphabet codes => Emitter.one (.set alphabet codes.toArray)
  | .look kind => Emitter.one (.look kind)
  | .repeats least most? greedy node => node.emitter.repeats least most? greedy
  | .capture node => node.emitter
  | .cat nodes => Node.emitSeq nodes
  | .alt nodes => Node.emitAlt nodes

def Node.emitSeq : List Node → Emitter
  | [] => Emitter.nothing
  | node :: rest => node.emitter.seq (Node.emitSeq rest)

def Node.emitAlt : List Node → Emitter
  | [] => Emitter.one fun _ => .fail
  | node :: rest => if rest.isEmpty then node.emitter else node.emitter.either (Node.emitAlt rest)

end

def Node.program (node : Node) : Program :=
  let (start, code) := node.emitter 0 #[.done]
  ⟨code, start⟩

end HistoryAudit.Regex
