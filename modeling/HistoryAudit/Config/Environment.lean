/-
  HistoryAudit.Config.Environment

  Which variables the shell under test gets: some passed on from the parent, by
  name, and some set. Variables that load foreign code into a process are
  refused, whatever the case of their letters.
-/
import HistoryAudit.Failure

namespace HistoryAudit.Config

open Json

abbrev Variables := List (String × String)

def lookup? (env : Variables) (name : String) : Option String :=
  (env.find? (·.1 == name)).map (·.2)

/-- Which variables a process gets. -/
structure EnvPolicy where
  /-- The names of variables that may be passed on. -/
  allowlist : List String
  /-- Variables that are set, sorted by name. -/
  set : Variables
  inherit : Bool
  deriving DecidableEq

namespace EnvPolicy

/-- A few harmless names are passed on, and the kind of terminal is set. -/
def standard : EnvPolicy :=
  ⟨["PATH", "HOME", "USER", "LANG", "LC_ALL", "TMPDIR"], [("TERM", "xterm")], true⟩

def codec : Codec EnvPolicy :=
  Codec.record "EnvPolicy" <|
    (Fields.cons (.withDefault "allowlist" Codec.text.list []) <|
      Fields.cons (.withDefault "set" Codec.textMap []) <|
      Fields.cons (.withDefault "inherit" Codec.bool false) Fields.done).map
    (fun (allowlist, set, inherit, ()) => ⟨allowlist, set, inherit⟩)
    (fun p => (p.allowlist, p.set, p.inherit, ()))

/-- Variables through which foreign code gets into a process. -/
def blocked : List String :=
  ["LD_PRELOAD", "LD_LIBRARY_PATH", "LD_AUDIT", "DYLD_INSERT_LIBRARIES", "DYLD_LIBRARY_PATH",
    "DYLD_FRAMEWORK_PATH"]

/-- The text with the capitals of the alphabet made small. -/
def foldCase (s : String) : List Char := s.toList.map Char.toLower

def isBlocked (name : String) : Bool := blocked.any fun b => foldCase b == foldCase name

def blockedFailure (name : String) : Failure :=
  ⟨.protocol, "dangerous environment variable blocked",
    some (.object [("blocked_vars", Value.strings blocked), ("var", .string name)])⟩

/-- The first blocked variable that the policy names. -/
def blocked? (p : EnvPolicy) : Option String :=
  (p.allowlist ++ p.set.map (·.1)).find? isBlocked

/-- The variables passed on from the parent: allowed, not set, and there. -/
def inherited (p : EnvPolicy) (parent : Variables) : Variables :=
  if p.inherit then
    (p.allowlist.filter fun name => (lookup? p.set name).isNone).filterMap fun name =>
      (lookup? parent name).map (name, ·)
  else []

/-- The variables of the process, those passed on before those set. -/
def resolve (p : EnvPolicy) (parent : Variables) : Except Failure Variables :=
  match p.blocked? with
  | some name => .error (blockedFailure name)
  | none => .ok (p.inherited parent ++ p.set)

end EnvPolicy

end HistoryAudit.Config
