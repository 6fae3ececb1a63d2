/-
  HistoryAudit.Files.Path

  Paths: bytes with slashes between their parts.
-/
import HistoryAudit.Text.OsText

namespace HistoryAudit.Files.Path

def slash : UInt8 := 47

def dot : UInt8 := 46

def isAbsolute (path : OsText) : Bool := path.bytes.head? == some slash

/-- `path` seen from `base`. An absolute path stays as it is. -/
def join (base path : OsText) : OsText :=
  if isAbsolute path then path
  else if base.bytes = [] ∨ base.bytes.getLast? = some slash then base ++ path
  else base ++ "/" ++ path

/-- The pieces between slashes; those of a path that ends in a slash end in an empty one. -/
def pieces : List UInt8 → List (List UInt8)
  | [] => [[]]
  | b :: bs =>
    if b = slash then [] :: pieces bs
    else
      match pieces bs with
      | [] => [[b]]
      | p :: ps => (b :: p) :: ps

/-- The parts that lead somewhere: empty ones and `.` do not. -/
def parts (path : OsText) : List OsText :=
  ((pieces path.bytes).filter fun p => p ≠ [] ∧ p ≠ [dot]).map OsText.mk

/-- Must the path lead to a directory, because of how it ends? -/
def namesDirectory (path : OsText) : Bool :=
  match (pieces path.bytes).getLast? with
  | some last => last == [] || last == [dot] || last == [dot, dot]
  | none => false

/-- The last part, if it is a name. -/
def fileName? (path : OsText) : Option OsText :=
  match (parts path).getLast? with
  | some name => if name = ".." then none else some name
  | none => none

/-- What stands behind the last dot of the last part, unless that dot comes first or what follows
is not valid text. -/
def extension? (path : OsText) : Option String := do
  let name ← fileName? path
  let after := name.bytes.reverse.takeWhile (· ≠ dot)
  if after.length + 1 < name.bytes.length then (OsText.mk after.reverse).text? else none

/-- The path without its last part; none for the root and for the empty path. -/
def parent? (path : OsText) : Option OsText :=
  match (parts path).reverse with
  | [] => none
  | _ :: before =>
    let lead : OsText := if isAbsolute path then "/" else ""
    some (lead ++ ⟨[slash].intercalate (before.reverse.map (·.bytes))⟩)

end HistoryAudit.Files.Path
