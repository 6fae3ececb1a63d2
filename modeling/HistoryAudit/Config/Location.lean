/-
  HistoryAudit.Config.Location

  Where the shell keeps its history log.
-/
import HistoryAudit.Files.Path
import HistoryAudit.Json.Fields

namespace HistoryAudit.Config

open Json

def namespaceVariable : String := "fish_history"

def dataVariable : String := "XDG_DATA_HOME"

def homeVariable : String := "HOME"

/-- The history that is used when none, or no valid one, is named. -/
def defaultNamespace : String := "histprobe_test"

def isNameChar (c : Char) : Bool := c.isAlphanum || c == '_'

/-- Is it the name of a history? Names become file names, so only letters, digits and underscores
of ASCII are allowed. -/
def isValidNamespace (name : String) : Bool :=
  name.toList ≠ [] && name.toList.all isNameChar

/-- Where the log is. -/
structure Location where
  name : String
  dataDir? : Option OsText
  /-- The home directory, below which the directory for data is found otherwise. -/
  home? : Option OsText
  deriving DecidableEq

namespace Location

def codec : Codec Location :=
  Codec.record "HistoryLocation" <|
    (Fields.cons (.required "namespace" Codec.text) <|
      Fields.cons (.nullable "data_dir" Codec.path) <|
      Fields.cons (.nullable "home" Codec.path) Fields.done).map
    (fun (name, dataDir?, home?, ()) => ⟨name, dataDir?, home?⟩)
    (fun l => (l.name, l.dataDir?, l.home?, ()))

/-- A given directory for data, and no home. -/
def inDataDir (name : String) (dataDir : OsText) : Location := ⟨name, some dataDir, none⟩

/-- The directory for data. -/
def baseDir? (l : Location) : Option OsText :=
  l.dataDir?.or (l.home?.map fun home => Files.Path.join (Files.Path.join home ".local") "share")

/-- The log of a history in a directory for data. -/
def logIn (base : OsText) (name : String) : OsText :=
  Files.Path.join (Files.Path.join base "fish") (name ++ ".jsonl" : String)

/-- The log, if a directory for data is known. -/
def logPath? (l : Location) : Option OsText := l.baseDir?.map fun base => logIn base l.name

end Location

end HistoryAudit.Config
