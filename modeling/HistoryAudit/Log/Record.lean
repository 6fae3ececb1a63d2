/-
  HistoryAudit.Log.Record

  One line of a history log. Every known member may be absent or null; members
  with other names are kept as they are.
-/
import HistoryAudit.Json.Fields

namespace HistoryAudit.Log

open Json

/-- One line of the log as the shell wrote it. -/
structure Record where
  /-- Lines with the same `id` speak of the same command. -/
  id? : Option String
  cmd? : Option String
  exit? : Option Int
  dur? : Option Float
  paths? : Option (List String)
  cwd? : Option String
  sid? : Option String
  /-- Members that are not known, sorted by name. -/
  extra : List (String × Value)

namespace Record

abbrev Known :=
  Option String × Option String × Option Int × Option Float × Option (List String) ×
    Option String × Option String × Unit

def known : Fields Known :=
  Fields.cons (.nullable "id" Codec.text) <|
  Fields.cons (.nullable "cmd" Codec.text) <|
  Fields.cons (.nullable "exit" Codec.int32) <|
  Fields.cons (.nullable "dur" Codec.float) <|
  Fields.cons (.nullable "paths" Codec.text.list) <|
  Fields.cons (.nullable "cwd" Codec.text) <|
  Fields.cons (.nullable "sid" Codec.text) <|
  Fields.done

def ofKnown (extra : List (String × Value)) : Known → Record
  | (id?, cmd?, exit?, dur?, paths?, cwd?, sid?, ()) =>
    ⟨id?, cmd?, exit?, dur?, paths?, cwd?, sid?, extra⟩

/-- Reads what follows a name: a known member once, any other as a value of its own. -/
def readMember (levels : Nat) (name : String) (d : known.Draft × List (String × Value)) :
    Reader (known.Draft × List (String × Value)) :=
  if name ∈ known.names then do return (← known.readMember levels name d.1, d.2)
  else do
    Reader.colon
    let v ← Reader.value levels
    return (d.1, Value.insertMember name v.canonical d.2)

/-- Reads the members of a line whose brace was passed. -/
def readObject (levels : Nat) : Reader Record := do
  let d ← Reader.members Reader.string (readMember levels) (known.blank, [])
  match known.complete d.1 with
  | .ok k => pure (ofKnown d.2 k)
  | .error cause => Reader.fail cause

def read (levels : Nat) : Reader Record := do
  match ← Reader.peekToken with
  | none => Reader.failAtNext .eofValue
  | some '\x7b' =>
    Reader.opened (levels - 1) (Reader.enclosed (readObject (levels - 1)) Reader.closeObject)
  | some c => Reader.mismatch "struct RawRecord" c

def parse (line : String) : Except Fault Record :=
  Reader.run (read Reader.maxDepth) line

end Record

end HistoryAudit.Log
