/-
  HistoryAudit.Audit.Check

  Checking the properties of a log. Each is decided on its own, so one that is
  violated hides no other.
-/
import HistoryAudit.Audit.Property
import HistoryAudit.Log.Entry

namespace HistoryAudit.Audit

open Log (Entry)

def listed (texts : List String) : String := ", ".intercalate texts

def described (e : Entry) : String := s!"line {e.line} " ++ Text.quoted e.cmd

def checkMinEntries (entries : List Entry) (least : Nat) : Finding :=
  if entries.length ≥ least then
    .pass .minEntries s!"Found at least {least} history items"
  else
    .fail .minEntries
      s!"expected at least {least} well-formed history items, found {entries.length}"

/-- Puts a number into an ascending list that holds none twice. -/
def insertAscending (n : Int) : List Int → List Int
  | [] => [n]
  | m :: ms =>
    if n < m then n :: m :: ms else if n = m then m :: ms else m :: insertAscending n ms

/-- The exit codes that occur, ascending. -/
def exitCodes (entries : List Entry) : List Int :=
  (entries.filterMap (·.exit?)).foldl (fun codes n => insertAscending n codes) []

def checkExitZero (codes : List Int) : Finding :=
  if 0 ∈ codes then .pass .exitZero "Found exit code 0"
  else
    .fail .exitZero
      ("no entry recorded exit code 0 (recorded: [" ++ listed (codes.map toString) ++ "])")

/-- Is there an entry with the exit code of the failing command? Zero never counts as one. -/
def checkExitFailure (codes : List Int) (failure : Int) : Finding :=
  if failure ≠ 0 ∧ failure ∈ codes then .pass .exitFailure s!"Found exit code {failure}"
  else
    .fail .exitFailure
      (s!"no entry recorded nonzero exit code {failure} (recorded: [" ++
        listed (codes.map toString) ++ "])")

def checkUniversalDuration (entries : List Entry) : Finding :=
  let missing := entries.filter (·.dur?.isNone)
  if missing.isEmpty then
    .pass .universalDuration s!"All {entries.length} items have duration"
  else
    .fail .universalDuration
      (s!"{missing.length} of {entries.length} items have no duration: " ++
        listed (missing.map described))

/-- Is the entry what a block should be: no exit code, but a duration? -/
def conforms (e : Entry) : Bool := e.exit?.isNone && e.dur?.isSome

/-- The two findings about the entries that are blocks. One block that conforms is enough for both;
otherwise each names the blocks that violate it. -/
def checkBlocks (blocks : List Entry) (label : String) : Finding × Finding :=
  let conforming := blocks.any conforms
  let withExit := blocks.filterMap fun e =>
    e.exit?.map fun code => described e ++ s!" recorded exit code {code}"
  let withoutDuration := (blocks.filter (·.dur?.isNone)).map fun e =>
    described e ++ " has no duration"
  (if conforming || withExit.isEmpty then .pass .blockWithoutExit (label ++ " has no exit code")
    else .fail .blockWithoutExit
      ("no " ++ label ++ " entry without exit code: " ++ listed withExit),
   if conforming || withoutDuration.isEmpty then
      .pass .blockWithDuration (label ++ " has duration")
    else .fail .blockWithDuration
      ("no " ++ label ++ " entry with duration: " ++ listed withoutDuration))

def checkBlockEntries (entries : List Entry) (start stop : String) : Finding × Finding :=
  let blocks := entries.filter (·.mentions start stop)
  if blocks.isEmpty then
    let reason := "no entry contains both " ++ Text.quoted start ++ " and " ++ Text.quoted stop
    (.fail .blockWithoutExit reason, .fail .blockWithDuration reason)
  else checkBlocks blocks (start ++ ";" ++ stop)

def check (entries : List Entry) (t : Thresholds) : List Finding :=
  let codes := exitCodes entries
  let (withoutExit, withDuration) := checkBlockEntries entries t.blockStart t.blockEnd
  [checkMinEntries entries t.minEntries, checkExitZero codes,
    checkExitFailure codes t.failureExit, checkUniversalDuration entries, withoutExit,
    withDuration]

end HistoryAudit.Audit
