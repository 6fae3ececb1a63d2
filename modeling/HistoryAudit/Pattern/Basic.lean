/-
  HistoryAudit.Pattern.Basic

  What output is waited for: a text, a regular expression, or a prompt with a
  number that is large enough.
-/
import HistoryAudit.Pattern.Template
import HistoryAudit.Regex.Meaning
import HistoryAudit.Regex.Reading
import HistoryAudit.Regex.Search
import HistoryAudit.Regex.Size
import HistoryAudit.Scenario.Basic
import HistoryAudit.Text.Quoted

namespace HistoryAudit

open Json (Value)

structure Expression where
  source : String
  program : Regex.Program

/-- What output is waited for. -/
inductive Pattern where
  | literal (text : String)
  | regex (e : Expression)
  | counted (template : Pattern.Template) (least : Nat)

namespace Pattern

/-- The length of the longest regular expression, in bytes. -/
def longestRegex : Nat := 1000

def largestRegex : Nat := Nat.pow 2 20

def checkLength (source : String) : Except Failure Unit :=
  let length := source.utf8ByteSize
  if length ≤ longestRegex then .ok ()
  else
    .error ⟨.protocol, "regex pattern too long",
      some (.object [("length", .nat length), ("max", .nat longestRegex)])⟩

/-- The program of a regular expression, or why there is none. -/
def programOf (source : String) : Except String Regex.Program :=
  let node : Except Regex.Fault Regex.Node := do
    let ast ← Regex.Ast.ofPattern source
    Regex.Node.ofAst ast
  match node with
  | .error fault => .error (fault.message source)
  | .ok node =>
    if node.totalSize ≤ largestRegex then .ok node.program
    else .error s!"Compiled regex exceeds size limit of {largestRegex} bytes."

def ofRegex (source : String) : Except Failure Pattern := do
  checkLength source
  match programOf source with
  | .ok program => return .regex ⟨source, program⟩
  | .error reason =>
    throw ⟨.protocol, "invalid regex pattern",
      some (.object [("parse_error", .string reason), ("pattern", .string source)])⟩

/-- A prompt. If it has a counter mark, its number has to be `least` or more. -/
def ofPrompt (prompt : String) (least : Nat) : Except Failure Pattern :=
  match Template.ofPrompt? prompt with
  | none => .ok (.literal prompt)
  | some template =>
    match checkLength template.source with
    | .ok () => .ok (.counted template least)
    | .error e => .error e

/-- What a checkpoint waits for; the prompt is taken as it is written. -/
def ofCheckpoint (prompt : String) : Checkpoint → Except Failure Pattern
  | .prompt => .ok (.literal prompt)
  | .literal text => .ok (.literal text)
  | .regex source => ofRegex source

def find? (p : Pattern) (hay : List UInt8) : Option Extent :=
  match p with
  | .literal text =>
    let needle := Text.Utf8.encode text
    (Text.findFirst? needle hay).map fun start => ⟨start, needle.length⟩
  | .regex e => (e.program.find? hay).map fun (start, stop) => ⟨start, stop - start⟩
  | .counted template least => template.find? least hay

/-- The number in matched text, for a prompt with a number. -/
def number? (p : Pattern) (matched : String) : Option Nat :=
  match p with
  | .counted template _ => template.firstNumber? (Text.Utf8.encode matched)
  | _ => none

def describe : Pattern → String
  | .literal text => "literal " ++ Text.quoted text
  | .regex e => s!"regex /{e.source}/"
  | .counted template least => s!"prompt /{template.source}/ numbered {least} or later"

end Pattern

end HistoryAudit
