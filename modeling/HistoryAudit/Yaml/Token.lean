/-
  HistoryAudit.Yaml.Token

  The tokens of a YAML text. Collections that the indentation marks have tokens
  for their ends too.
-/
import HistoryAudit.Yaml.Tag

namespace HistoryAudit.Yaml

inductive Token where
  | directive (directive : Directive)
  | documentStart
  | documentEnd
  | blockSequence
  | blockMapping
  | blockEnd
  | flowSequence
  | flowSequenceEnd
  | flowMapping
  | flowMappingEnd
  /-- The mark of an item on lines of its own. -/
  | blockEntry
  /-- The comma between items in brackets. -/
  | flowEntry
  | key
  | value
  | alias (name : List Char)
  | anchor (name : List Char)
  | tag (tag : WrittenTag)
  /-- The text of a scalar, and whether it is written without quotes on a line of other things. -/
  | scalar (plain : Bool) (text : List Char)

end HistoryAudit.Yaml
