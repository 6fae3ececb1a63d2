/-
  HistoryAudit.Failure

  What can go wrong, as a code that scripts may rely on, a message and optional
  data. The code alone decides the exit status, which is never 0 and never 1:
  those two tell whether the checks passed.
-/
import HistoryAudit.Json.Fields
import HistoryAudit.Json.Variants

namespace HistoryAudit

open Json

/-- The kinds of failure. -/
inductive ErrorCode where
  | timeout
  | processExit
  | inputOutput
  /-- A scenario, pattern or setting is not valid. -/
  | protocol
  | missingArtifact
  | malformedRecord
  /-- Any other failure of validation. -/
  | unexpected
  /-- The harness contradicts itself. -/
  | internal
  deriving DecidableEq, Repr

namespace ErrorCode

def all : List ErrorCode :=
  [.timeout, .processExit, .inputOutput, .protocol, .missingArtifact, .malformedRecord,
    .unexpected, .internal]

def text : ErrorCode → String
  | .timeout => "E_TIMEOUT"
  | .processExit => "E_PROCESS_EXIT"
  | .inputOutput => "E_IO"
  | .protocol => "E_PROTOCOL"
  | .missingArtifact => "E_MISSING_ARTIFACT"
  | .malformedRecord => "E_MALFORMED_RECORD"
  | .unexpected => "E_UNEXPECTED"
  | .internal => "E_INTERNAL"

def parse? (s : String) : Option ErrorCode := all.find? (·.text == s)

/-- The exit status that tells of the code. -/
def exitStatus : ErrorCode → Nat
  | .protocol => 2
  | .missingArtifact => 3
  | .timeout => 4
  | .processExit => 5
  | .inputOutput => 6
  | .internal => 7
  | .malformedRecord => 8
  | .unexpected => 8

def advice? : ErrorCode → Option String
  | .timeout => some "check that --prompt matches what the shell prints when idle"
  | .processExit => some "the shell exited early; run with -v to see its output"
  | .missingArtifact =>
    some "the shell did not write its history log; check the namespace and data directory"
  | _ => none

def codec : Codec ErrorCode := Codec.choice (all.map fun c => (c.text, c)) text

end ErrorCode

/-- A failure as reports carry it. -/
structure Failure where
  code : ErrorCode
  message : String
  context : Option Value := none

namespace Failure

def line (f : Failure) : String := f.code.text ++ ": " ++ f.message

/-- The failure of an operation on the terminal or a file, with the reason the system gave. -/
def ofSource (message source : String) : Failure :=
  ⟨.inputOutput, message, some (.object [("source", .string source)])⟩

def codec : Codec Failure :=
  Codec.record "ErrorInfo" <|
    (Fields.cons (.required "code" ErrorCode.codec) <|
      Fields.cons (.required "message" Codec.text) <|
      Fields.cons (.optional "context" Codec.any) Fields.done).map
    (fun (code, message, context, ()) => ⟨code, message, context⟩)
    (fun f => (f.code, f.message, f.context, ()))

end Failure

end HistoryAudit
