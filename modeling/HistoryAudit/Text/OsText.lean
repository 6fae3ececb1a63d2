/-
  HistoryAudit.Text.OsText

  Texts of the system, such as arguments and paths. They are bytes, which need not
  be valid UTF-8; what is shown of them always is.
-/
import HistoryAudit.Text.Utf8

namespace HistoryAudit

/-- A text of the system. -/
structure OsText where
  bytes : List UInt8
  deriving DecidableEq

namespace OsText

def ofString (s : String) : OsText := ⟨Text.Utf8.encode s⟩

instance : Coe String OsText := ⟨ofString⟩

def empty : OsText := ⟨[]⟩

instance : Append OsText := ⟨fun s t => ⟨s.bytes ++ t.bytes⟩⟩

instance : LT OsText := ⟨fun s t => s.bytes < t.bytes⟩

instance (s t : OsText) : Decidable (s < t) := inferInstanceAs (Decidable (s.bytes < t.bytes))

/-- The text as it is shown, with U+FFFD for each part that is not valid. -/
def shown (t : OsText) : String := Text.Utf8.lossy t.bytes

/-- The text is valid: nothing is lost when it is shown. -/
def IsText (t : OsText) : Prop := ofString t.shown = t

instance (t : OsText) : Decidable t.IsText := inferInstanceAs (Decidable (ofString t.shown = t))

def text? (t : OsText) : Option String := if t.IsText then some t.shown else none

end OsText

end HistoryAudit
