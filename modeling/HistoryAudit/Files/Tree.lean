/-
  HistoryAudit.Files.Tree

  The files and directories of the system, and what may be done with them by path.
  A file is found by the names that lead to it; the list of all of them is sorted,
  each directory before what is in it.
-/
import HistoryAudit.Files.Path
import HistoryAudit.SystemError

namespace HistoryAudit.Files

inductive FileError where
  | notFound
  | notDirectory
  | isDirectory
  | nameTooLong
  | noSpace
  /-- The path holds the byte zero. -/
  | badPath
  | other (e : SystemError)
  deriving DecidableEq

def FileError.message : FileError → String
  | .notFound => (SystemError.mk 2).message
  | .notDirectory => (SystemError.mk 20).message
  | .isDirectory => (SystemError.mk 21).message
  | .nameTooLong => (SystemError.mk 36).message
  | .noSpace => SystemError.noSpace.message
  | .badPath => "file name contained an unexpected NUL byte"
  | .other e => e.message

def FileError.ofNumber : Nat → FileError
  | 2 => .notFound
  | 20 => .notDirectory
  | 21 => .isDirectory
  | 28 => .noSpace
  | 36 => .nameTooLong
  | n => .other ⟨n⟩

/-- Why a file that is there must not be removed: by the rights on it or on its directory, or
because of the device. -/
inductive Bar where
  | notPermitted
  | accessDenied
  | busy
  | readOnly
  | device
  deriving DecidableEq

def Bar.error : Bar → SystemError
  | .notPermitted => .notPermitted
  | .accessDenied => ⟨13⟩
  | .busy => ⟨16⟩
  | .readOnly => ⟨30⟩
  | .device => .device

inductive Node where
  | file (content : List UInt8)
  | directory
  deriving DecidableEq

/-- The names that lead from the root to a file. -/
abbrev Route := List OsText

structure Tree where
  /-- The files and directories, sorted by their routes. -/
  nodes : List (Route × Node)
  cwd : Route := []
  /-- The files that must not be removed. -/
  barred : List (Route × Bar) := []
  deriving DecidableEq

namespace Tree

def empty : Tree := { nodes := [] }

/-- What stands at the end of a route. -/
def find? (t : Tree) : Route → Option Node
  | [] => some .directory
  | route => (t.nodes.find? (·.1 == route)).map (·.2)

/-- Puts a node into a sorted list, in place of one with the same route. -/
def insertNode (route : Route) (node : Node) : List (Route × Node) → List (Route × Node)
  | [] => [(route, node)]
  | (r, n) :: rest =>
    if route < r then (route, node) :: (r, n) :: rest
    else if route = r then (route, node) :: rest
    else (r, n) :: insertNode route node rest

def insert (t : Tree) (route : Route) (node : Node) : Tree :=
  { t with nodes := insertNode route node t.nodes }

def erase (t : Tree) (route : Route) : Tree :=
  { t with nodes := t.nodes.filter (·.1 != route) }

/-- The longest name of a file, in bytes. -/
def maxName : Nat := 255

/-- The longest path, in bytes. -/
def maxPath : Nat := 4095

/-- Follows the parts of a path from a directory whose route is given backwards. All but the last
part must lead to directories. -/
def follow (t : Tree) : (back : Route) → List OsText → Except FileError Route
  | back, [] => .ok back.reverse
  | back, part :: rest =>
    match t.find? back.reverse with
    | none => .error .notFound
    | some (.file _) => .error .notDirectory
    | some .directory =>
      -- What is above the root is the root.
      if part = ".." then follow t back.tail rest
      else if part.bytes.length > maxName then .error .nameTooLong
      else follow t (part :: back) rest

/-- The directory from which a path is followed, its route given backwards. -/
def start (t : Tree) (path : OsText) : Route :=
  if Path.isAbsolute path then [] else t.cwd.reverse

/-- The route of a path; its end need not exist. -/
def locate (t : Tree) (path : OsText) : Except FileError Route :=
  if path.bytes.contains 0 then .error .badPath
  else if path.bytes = [] then .error .notFound
  else if path.bytes.length > maxPath then .error .nameTooLong
  else
    match follow t (t.start path) (Path.parts path) with
    | .error e => .error e
    | .ok route =>
      match t.find? route with
      | some (.file _) => if Path.namesDirectory path then .error .notDirectory else .ok route
      | _ => .ok route

def read (t : Tree) (path : OsText) : Except FileError (List UInt8) :=
  match t.locate path with
  | .error e => .error e
  | .ok route =>
    match t.find? route with
    | none => .error .notFound
    | some .directory => .error .isDirectory
    | some (.file content) => .ok content

def directorySize : Nat := 4096

def size? (t : Tree) (path : OsText) : Option Nat :=
  match t.locate path with
  | .error _ => none
  | .ok route =>
    match t.find? route with
    | none => none
    | some .directory => some directorySize
    | some (.file content) => some content.length

/-- What keeps the file at the end of a route from being removed. -/
def bar? (t : Tree) (route : Route) : Option Bar :=
  (t.barred.find? (·.1 == route)).map (·.2)

/-- Puts a bar on the file at the end of a path, or takes it off. -/
def setBar (t : Tree) (path : OsText) (bar? : Option Bar) : Tree :=
  match t.locate path with
  | .error _ => t
  | .ok route =>
    { t with
      barred := (bar?.map (route, ·)).toList ++ t.barred.filter (·.1 != route) }

def remove (t : Tree) (path : OsText) : Except FileError Tree :=
  match t.locate path with
  | .error e => .error e
  | .ok route =>
    match t.find? route with
    | none => .error .notFound
    | some .directory => .error .isDirectory
    | some (.file _) =>
      match t.bar? route with
      | some bar => .error (.other bar.error)
      | none => .ok (t.erase route)

/-- Writes a file, or appends to it. Its directory must exist. -/
def write (t : Tree) (path : OsText) (content : List UInt8) (append : Bool) :
    Except FileError Tree :=
  match t.locate path with
  | .error e => .error e
  | .ok route =>
    match t.find? route with
    | some .directory => .error .isDirectory
    | some (.file old) => .ok (t.insert route (.file (if append then old ++ content else content)))
    | none =>
      if Path.namesDirectory path then .error .isDirectory
      else .ok (t.insert route (.file content))

def makeDirectory (t : Tree) (path : OsText) : Except FileError Tree :=
  match t.locate path with
  | .error e => .error e
  | .ok route =>
    match t.find? route with
    | some _ => .error .notDirectory
    | none => .ok (t.insert route .directory)

def isDirectory (t : Tree) (path : OsText) : Bool :=
  match t.locate path with
  | .error _ => false
  | .ok route => t.find? route == some .directory

/-- Makes a directory and those that lead to it; `fuel` is more than the parts of the path. What was
made stays even if a later one is refused. -/
def makeDirectoriesFrom : (fuel : Nat) → Tree → (path : OsText) → Tree × Option FileError
  | 0, t, _ => (t, some .notFound)
  | fuel + 1, t, path =>
    if path.bytes = [] ∨ t.isDirectory path then (t, none)
    else
      match t.makeDirectory path with
      | .ok t' => (t', none)
      | .error .notFound =>
        match Path.parent? path with
        | none => (t, some .notFound)
        | some up =>
          match makeDirectoriesFrom fuel t up with
          | (t', some e) => (t', some e)
          | (t', none) =>
            match t'.makeDirectory path with
            | .ok t'' => (t'', none)
            | .error e => (t', if t'.isDirectory path then none else some e)
      | .error e => (t, some e)

def makeDirectories (t : Tree) (path : OsText) : Tree × Option FileError :=
  makeDirectoriesFrom ((Path.parts path).length + 2) t path

/-- Writes a file and makes the directories that lead to it. -/
def place (t : Tree) (path : OsText) (content : List UInt8) (append : Bool) :
    Tree × Option FileError :=
  match t.makeDirectories ((Path.parent? path).getD "") with
  | (t', some e) => (t', some e)
  | (t', none) =>
    match t'.write path content append with
    | .ok t'' => (t'', none)
    | .error e => (t', some e)

end Tree

end HistoryAudit.Files
