/-
  HistoryAudit.Surroundings

  What a run shares with others: a clock, the files, and the changes that others
  will make to them. Time passes only in pauses.
-/
import HistoryAudit.Files.Tree

namespace HistoryAudit

open Files

/-- What somebody else does to a file. -/
inductive Change where
  | write (content : List UInt8) (append : Bool)
  | remove
  /-- The file is barred from being removed, or no longer. -/
  | setBar (bar? : Option Bar)
  deriving DecidableEq

/-- A change that is made once the clock has reached `due`. -/
structure Event where
  due : Nat
  path : OsText
  change : Change
  deriving DecidableEq

/-- The files after an event; a change that is refused has no effect. -/
def Event.apply (e : Event) (files : Tree) : Tree :=
  match e.change with
  | .write content append => (files.place e.path content append).1
  | .remove => (files.remove e.path).toOption.getD files
  | .setBar bar? => files.setBar e.path bar?

/-- A clock in milliseconds, the files, and the changes to come. -/
structure Surroundings where
  clock : Nat := 0
  files : Tree := .empty
  events : List Event := []

namespace Surroundings

/-- Lets time pass; the changes that have become due are made, in their order. -/
def pause (s : Surroundings) (duration : Nat) : Surroundings :=
  let clock := s.clock + duration
  { clock
    files := (s.events.filter (·.due ≤ clock)).foldl (fun files e => e.apply files) s.files
    events := s.events.filter (clock < ·.due) }

end Surroundings

end HistoryAudit
