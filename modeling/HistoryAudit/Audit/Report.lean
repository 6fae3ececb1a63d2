/-
  HistoryAudit.Audit.Report

  What validation concluded about a log file, the verdict, and its printed lines.
-/
import HistoryAudit.Audit.Check
import HistoryAudit.Log.Reading

namespace HistoryAudit.Audit

open Json

/-- What validation concluded. -/
inductive Outcome where
  | missing
  | unreadable (message : String)
  | checked (entries : Nat) (findings : List Finding) (malformed : List Log.Malformed)

namespace Outcome

def variants : Variants Outcome :=
  (Variants.bare "missing_artifact" <|
    Variants.fields "unexpected_failure" "ValidationOutcome" "UnexpectedFailure"
      (Fields.cons (.required "message" Codec.text) Fields.done) <|
    Variants.fields "checked" "ValidationOutcome" "Checked"
      (Fields.cons (.required "entries" (Codec.natural "usize" 64)) <|
        Fields.cons (.required "properties" Finding.codec.list) <|
        Fields.cons (.required "malformed" Log.Malformed.codec.list) Fields.done) <|
    Variants.none).map
    (fun
      | .inl () => .missing
      | .inr (.inl (message, ())) => .unreadable message
      | .inr (.inr (.inl (entries, findings, malformed, ()))) =>
        .checked entries findings malformed)
    (fun
      | .missing => .inl ()
      | .unreadable message => .inr (.inl (message, ()))
      | .checked entries findings malformed =>
        .inr (.inr (.inl (entries, findings, malformed, ()))))

def codec : Codec Outcome := Codec.tagged "ValidationOutcome" "status" variants

def ofText (text : String) (t : Thresholds) : Outcome :=
  let log := Log.parse text
  .checked log.entries.length (check log.entries t) log.malformed

end Outcome

/-- The result of validating a log file. -/
structure Report where
  path : OsText
  outcome : Outcome

namespace Report

def codec : Codec Report :=
  Codec.record "ValidationReport" <|
    (Fields.cons (.required "path" Codec.path) <|
      Fields.cons (.required "outcome" Outcome.codec) Fields.done).map
    (fun (path, outcome, ()) => ⟨path, outcome⟩)
    (fun r => (r.path, r.outcome, ()))

/-- Can the report be written as JSON? Its path must be valid text. -/
def printable (r : Report) : Bool := r.path.IsText

def findings (r : Report) : List Finding :=
  match r.outcome with
  | .checked _ findings _ => findings
  | _ => []

/-- Was the log checked, with every property holding? -/
def passed (r : Report) : Bool :=
  match r.outcome with
  | .checked _ findings _ => findings.all (·.passed)
  | _ => false

/-- The code of what kept the log from being checked. -/
def errorCode? (r : Report) : Option ErrorCode :=
  match r.outcome with
  | .missing => some .missingArtifact
  | .unreadable _ => some .unexpected
  | .checked .. => none

/-- The printed lines: a warning for each malformed line, then one line for each property. -/
def lines (r : Report) : List String :=
  match r.outcome with
  | .missing => ["ERROR: History file not found: " ++ r.path.shown]
  | .unreadable message => ["ERROR: " ++ message]
  | .checked _ findings malformed =>
    malformed.map (fun m => s!"WARN line {m.line}: malformed record: " ++ m.reason) ++
      findings.map fun f =>
        if f.passed then f.message else "FAIL " ++ f.property.text ++ ": " ++ f.message

end Report

end HistoryAudit.Audit
