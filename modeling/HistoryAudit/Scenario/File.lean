/-
  HistoryAudit.Scenario.File

  Scenarios in files. The extension of the path tells the format.
-/
import HistoryAudit.Files.Tree
import HistoryAudit.Scenario.OfYaml
import HistoryAudit.Scenario.Run
import HistoryAudit.Text.Utf8

namespace HistoryAudit.Scenario

open Files

inductive Format where
  | json
  | yaml
  deriving DecidableEq

namespace Format

def text : Format → String
  | .json => "json"
  | .yaml => "yaml"

/-- The format of the file at a path: by its extension, in which only the case of letters from A to
Z does not matter. -/
def ofPath (path : OsText) : Format :=
  match (Path.extension? path).map fun e => e.toList.map Char.toLower with
  | some e => if e = "yaml".toList ∨ e = "yml".toList then .yaml else .json
  | none => .json

end Format

/-- What is said of a YAML text that is no scenario. -/
def yamlFault : String := "not a scenario"

/-- The scenario that a text describes, or what is wrong with it. -/
def ofText (format : Format) (text : String) : Except String Scenario :=
  match format with
  | .json =>
    match codec.decode text with
    | .ok s => .ok s
    | .error fault => .error fault.message
  | .yaml =>
    match ofYaml? text with
    | some s => .ok s
    | none => .error yamlFault

def unreadable (path : OsText) (source : String) : Failure :=
  ⟨.inputOutput, "failed to read scenario file",
    some (.object [("path", .string path.shown), ("source", .string source)])⟩

/-- The scenario in a file that was, or was not, read. It is checked. -/
def ofRead (path : OsText) (content : Except FileError (List UInt8)) : Except Failure Scenario :=
  match content with
  | .error e => .error (unreadable path e.message)
  | .ok bytes =>
    match Text.Utf8.decode bytes with
    | .error _ => .error (unreadable path "stream did not contain valid UTF-8")
    | .ok text =>
      match ofText (.ofPath path) text with
      | .error fault =>
        .error ⟨.protocol, "failed to parse scenario " ++ (Format.ofPath path).text,
          some (.object [("parse_error", .string fault), ("path", .string path.shown)])⟩
      | .ok s => s.check.map fun () => s

def load (files : Tree) (path : OsText) : Except Failure Scenario :=
  ofRead path (files.read path)

end HistoryAudit.Scenario
