/-
  HistoryAudit.Text.Unicode.NamedSet

  Sets of characters that the Unicode standard names, and how names compare:
  case, blanks, low lines, hyphens and a leading `is` do not count.
-/
import HistoryAudit.Text.CodeSet

namespace HistoryAudit.Text.Unicode

/-- A set of characters: its names, each in the form in which names compare, and its ranges in
hexadecimal. -/
structure NamedSet where
  names : List String
  hex : String

def NamedSet.codes (s : NamedSet) : CodeSet := CodeSet.ofHex s.hex

def named? (table : List NamedSet) (name : String) : Option CodeSet :=
  (table.find? fun s => s.names.contains name).map NamedSet.codes

def startsWithIs : List Char → Bool
  | a :: b :: _ => (a == 'i' || a == 'I') && (b == 's' || b == 'S')
  | _ => false

/-- The form in which names compare. A lone `c` behind `is` is the name `isc`. -/
def plainName (name : String) : String :=
  let cs := name.toList
  let bare := if startsWithIs cs then cs.drop 2 else cs
  let kept := bare.filter fun c => c != ' ' && c != '_' && c != '-' && c.toNat < 0x80
  let plain := kept.map Char.toLower
  String.ofList (if startsWithIs cs && plain == ['c'] then ['i', 's', 'c'] else plain)

end HistoryAudit.Text.Unicode
