/-
  HistoryAudit.Log.Reading

  Reading a whole log. Each line that is not blank is decoded on its own; one
  that cannot be decoded is noted and passed over. Lines with the same `id` are
  annotations of one command, in the order of the file: a later one fills in or
  replaces what earlier ones said.
-/
import HistoryAudit.Log.Entry
import HistoryAudit.Log.Record
import HistoryAudit.Text.Blank

namespace HistoryAudit.Log

/-- A command of which not all lines may have been read; its text may still be missing. -/
structure Pending where
  line : Nat
  id? : Option String
  cmd? : Option String := none
  exit? : Option Int := none
  dur? : Option Float := none
  paths : List String := []
  cwd? : Option String := none
  sid? : Option String := none
  extraFields : Nat := 0

namespace Pending

/-- Adds what one more line says. -/
def annotate (p : Pending) (r : Record) : Pending :=
  { p with
    cmd? := r.cmd?.or p.cmd?
    exit? := r.exit?.or p.exit?
    dur? := r.dur?.or p.dur?
    paths := r.paths?.getD p.paths
    cwd? := r.cwd?.or p.cwd?
    sid? := r.sid?.or p.sid?
    extraFields := p.extraFields + r.extra.length }

def incomplete (p : Pending) : String :=
  match p.id? with
  | some id => "history item " ++ id ++ " has no \"cmd\" field"
  | none => "record has no \"cmd\" field"

/-- The finished command, or the line that tells of its missing text. -/
def finish (p : Pending) : Except Malformed Entry :=
  match p.cmd? with
  | none => .error ⟨.malformedRecord, p.line, p.incomplete⟩
  | some cmd =>
    .ok ⟨p.line, p.id?, cmd, p.exit?, p.dur?, p.paths, p.cwd?, p.sid?, p.extraFields⟩

end Pending

/-- At most so many characters of a bad line are quoted. -/
def quoteLimit : Nat := 80

/-- A bad line, quoted, and cut off if it is long. -/
def quoteLine (line : String) : String :=
  if line.toList.length ≤ quoteLimit then Text.quoted line
  else Text.quoted (String.ofList (line.toList.take quoteLimit)) ++ "..."

def undecodable (number : Nat) (line : String) (fault : Json.Fault) : Malformed :=
  ⟨.malformedRecord, number, fault.message ++ ": " ++ quoteLine line⟩

/-- A log under construction. -/
structure Builder where
  /-- The commands, in the order of their first lines. -/
  pending : List Pending := []
  /-- In which place the command with an `id` stands. -/
  byId : List (String × Nat) := []
  malformed : List Malformed := []
  lines : Nat := 0

namespace Builder

def start (b : Builder) (number : Nat) (id? : Option String) : Builder :=
  { b with pending := b.pending ++ [{ line := number, id? }] }

/-- The place of the command that a line belongs to. A new command is started if the line has no
`id`, or one that was not met before. -/
def place (b : Builder) (number : Nat) (id? : Option String) : Nat × Builder :=
  let new := b.pending.length
  match id? with
  | none => (new, b.start number none)
  | some id =>
    match b.byId.lookup id with
    | some old => (old, b)
    | none => (new, { b.start number (some id) with byId := (id, new) :: b.byId })

def add (b : Builder) (number : Nat) (r : Record) : Builder :=
  let (place, b) := b.place number r.id?
  { b with pending := b.pending.modify place (·.annotate r) }

/-- Takes one more line, trimmed and not empty. -/
def push (b : Builder) (number : Nat) (line : String) : Builder :=
  let b := { b with lines := b.lines + 1 }
  match Record.parse line with
  | .ok r => b.add number r
  | .error fault => { b with malformed := b.malformed ++ [undecodable number line fault] }

/-- The log that was read, what is malformed in the order of its lines. -/
def finish (b : Builder) : Log :=
  let results := b.pending.map Pending.finish
  let incomplete := results.filterMap fun
    | .error m => some m
    | .ok _ => none
  { entries := results.filterMap Except.toOption
    malformed := (b.malformed ++ incomplete).mergeSort (·.line ≤ ·.line)
    lines := b.lines }

end Builder

/-- The lines that are not blank, trimmed, with their numbers counted from one. -/
def numberedLines (text : String) : List (Nat × String) :=
  ((Text.lines text).zipIdx 1).filterMap fun (line, number) =>
    let trimmed := Text.trim line
    if trimmed.isEmpty then none else some (number, trimmed)

def parse (text : String) : Log :=
  ((numberedLines text).foldl (fun b (number, line) => b.push number line) ({} : Builder)).finish

end HistoryAudit.Log
