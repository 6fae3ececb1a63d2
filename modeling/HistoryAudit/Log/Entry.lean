/-
  HistoryAudit.Log.Entry

  A command of the history, put together from all lines that speak of it, the
  lines of which nothing could be made, and a whole log as the two.
-/
import HistoryAudit.Failure
import HistoryAudit.Text.Blank

namespace HistoryAudit

open Json

namespace Log

structure Entry where
  /-- The number of the first line that speaks of it, counted from one. -/
  line : Nat
  id? : Option String
  cmd : String
  exit? : Option Int
  dur? : Option Float
  paths : List String
  cwd? : Option String
  sid? : Option String
  /-- How many members that are not known its lines had. -/
  extraFields : Nat

namespace Entry

def mentions (e : Entry) (start stop : String) : Bool :=
  Text.contains e.cmd start && Text.contains e.cmd stop

/-- Paths are left out when there are none. -/
def pathsField : Json.Field (List String) :=
  ⟨"paths", Codec.text.list, some [], List.isEmpty⟩

def codec : Codec Entry :=
  Codec.record "HistoryEntry" <|
    (Fields.cons (.required "line" (Codec.natural "usize" 64)) <|
      Fields.cons (.optional "id" Codec.text) <|
      Fields.cons (.required "cmd" Codec.text) <|
      Fields.cons (.optional "exit" Codec.int32) <|
      Fields.cons (.optional "dur" Codec.float) <|
      Fields.cons pathsField <|
      Fields.cons (.optional "cwd" Codec.text) <|
      Fields.cons (.optional "sid" Codec.text) <|
      Fields.cons (.withDefault "extra_fields" (Codec.natural "usize" 64) 0) <|
      Fields.done).map
    (fun (line, id?, cmd, exit?, dur?, paths, cwd?, sid?, extra, ()) =>
      ⟨line, id?, cmd, exit?, dur?, paths, cwd?, sid?, extra⟩)
    (fun e => (e.line, e.id?, e.cmd, e.exit?, e.dur?, e.paths, e.cwd?, e.sid?, e.extraFields, ()))

end Entry

/-- A line, or a command, that could not be used. -/
structure Malformed where
  code : ErrorCode
  line : Nat
  reason : String
  deriving DecidableEq

namespace Malformed

def codec : Codec Malformed :=
  Codec.record "MalformedLine" <|
    (Fields.cons (.required "code" ErrorCode.codec) <|
      Fields.cons (.required "line" (Codec.natural "usize" 64)) <|
      Fields.cons (.required "reason" Codec.text) Fields.done).map
    (fun (code, line, reason, ()) => ⟨code, line, reason⟩)
    (fun m => (m.code, m.line, m.reason, ()))

end Malformed

end Log

structure Log where
  entries : List Log.Entry
  malformed : List Log.Malformed
  /-- The number of lines that are not blank. -/
  lines : Nat

namespace Log

def codec : Codec Log :=
  Codec.record "ParsedLog" <|
    (Fields.cons (.required "entries" Entry.codec.list) <|
      Fields.cons (.required "malformed" Malformed.codec.list) <|
      Fields.cons (.required "lines" (Codec.natural "usize" 64)) Fields.done).map
    (fun (entries, malformed, lines, ()) => ⟨entries, malformed, lines⟩)
    (fun l => (l.entries, l.malformed, l.lines, ()))

end Log

end HistoryAudit
