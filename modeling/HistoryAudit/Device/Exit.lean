/-
  HistoryAudit.Device.Exit

  How a process ended.
-/

namespace HistoryAudit

/-- How a process ended: by itself, with a code, or by a signal. -/
inductive Exit where
  | code (n : Nat)
  | signal (name : String)
  deriving DecidableEq, Repr

namespace Exit

/-- The code that a parent sees. -/
def number : Exit → Nat
  | .code n => n
  | .signal _ => 1

def success : Exit → Bool
  | .code n => n == 0
  | .signal _ => false

def text : Exit → String
  | .code 0 => "Success"
  | .code n => s!"Exited with code {n}"
  | .signal name => s!"Terminated by {name}"

end Exit

end HistoryAudit
