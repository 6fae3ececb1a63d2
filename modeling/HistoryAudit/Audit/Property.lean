/-
  HistoryAudit.Audit.Property

  The properties that a history log is held to, and what was found about one.
-/
import HistoryAudit.Failure

namespace HistoryAudit.Audit

open Json

/-- A property of the log. -/
inductive Property where
  | minEntries
  | exitZero
  | exitFailure
  | universalDuration
  /-- The block of commands has no exit code. -/
  | blockWithoutExit
  /-- The block of commands has a duration. -/
  | blockWithDuration
  deriving DecidableEq, Repr

namespace Property

/-- All properties, in the order in which they are checked. -/
def all : List Property :=
  [.minEntries, .exitZero, .exitFailure, .universalDuration, .blockWithoutExit,
    .blockWithDuration]

def text : Property → String
  | .minEntries => "min_entries"
  | .exitZero => "exit_zero"
  | .exitFailure => "exit_failure"
  | .universalDuration => "universal_duration"
  | .blockWithoutExit => "block_without_exit"
  | .blockWithDuration => "block_with_duration"

def codec : Codec Property := Codec.choice (all.map fun p => (p.text, p)) text

end Property

/-- The result of checking one property. -/
structure Finding where
  property : Property
  passed : Bool
  message : String
  deriving DecidableEq

namespace Finding

def pass (property : Property) (message : String) : Finding := ⟨property, true, message⟩

def fail (property : Property) (message : String) : Finding := ⟨property, false, message⟩

def codec : Codec Finding :=
  Codec.record "PropertyResult" <|
    (Fields.cons (.required "property" Property.codec) <|
      Fields.cons (.required "passed" Codec.bool) <|
      Fields.cons (.required "message" Codec.text) Fields.done).map
    (fun (property, passed, message, ()) => ⟨property, passed, message⟩)
    (fun f => (f.property, f.passed, f.message, ()))

end Finding

/-- What the log is held to. -/
structure Thresholds where
  minEntries : Nat := 3
  failureExit : Int := 1
  /-- A command that contains this and `blockEnd` is a block. -/
  blockStart : String := "begin"
  blockEnd : String := "end"
  deriving DecidableEq

namespace Thresholds

def codec : Codec Thresholds :=
  Codec.record "CheckThresholds" <|
    (Fields.cons (.required "min_entries" (Codec.natural "usize" 64)) <|
      Fields.cons (.required "failure_exit_code" Codec.int32) <|
      Fields.cons (.required "block_start" Codec.text) <|
      Fields.cons (.required "block_end" Codec.text) Fields.done).map
    (fun (least, failure, start, stop, ()) => ⟨least, failure, start, stop⟩)
    (fun t => (t.minEntries, t.failureExit, t.blockStart, t.blockEnd, ()))

end Thresholds

end HistoryAudit.Audit
