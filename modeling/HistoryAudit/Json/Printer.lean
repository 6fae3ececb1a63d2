/-
  HistoryAudit.Json.Printer

  The compact text of a value: no blanks, members in the order they have.
-/
import HistoryAudit.Json.Text
import HistoryAudit.Json.Value

namespace HistoryAudit.Json

def Number.write : Number → List Char
  | .int n => (toString n).toList
  | .float f => (Decimal.text f).toList

namespace Value

mutual

def write : Value → List Char
  | .null => ['n', 'u', 'l', 'l']
  | .bool true => ['t', 'r', 'u', 'e']
  | .bool false => ['f', 'a', 'l', 's', 'e']
  | .number n => n.write
  | .string s => writeString s
  | .array [] => ['[', ']']
  | .array (v :: vs) => '[' :: write v ++ writeItems vs
  | .object [] => ['\x7b', '\x7d']
  | .object (m :: ms) => '\x7b' :: writeString m.1 ++ ':' :: write m.2 ++ writeMembers ms

/-- The items behind the first one, and the end of the list. -/
def writeItems : List Value → List Char
  | [] => [']']
  | v :: vs => ',' :: write v ++ writeItems vs

/-- The members behind the first one, and the end of the object. -/
def writeMembers : List (String × Value) → List Char
  | [] => ['\x7d']
  | m :: ms => ',' :: writeString m.1 ++ ':' :: write m.2 ++ writeMembers ms

end

def text (v : Value) : String := String.ofList v.write

end Value

end HistoryAudit.Json
