/-
  HistoryAudit.Config.Harness

  All settings of a run. The environment is read once, when they are made.
-/
import HistoryAudit.Audit.Property
import HistoryAudit.Config.Location
import HistoryAudit.Config.Shell
import HistoryAudit.Screen.Snapshot

namespace HistoryAudit

open Json

namespace Config

/-- How long to wait for the log to reach the disk: so many looks, and a pause between two. -/
structure FlushPolicy where
  attempts : Nat := 20
  interval : Nat := 10
  deriving DecidableEq

def FlushPolicy.codec : Codec FlushPolicy :=
  Codec.record "FlushPolicy" <|
    (Fields.cons (.required "attempts" (Codec.natural "u32" 32)) <|
      Fields.cons (.required "interval_ms" (Codec.natural "u64" 64)) Fields.done).map
    (fun (attempts, interval, ()) => ⟨attempts, interval⟩)
    (fun p => (p.attempts, p.interval, ()))

/-- How long expected output is waited for, in milliseconds, unless it is set. -/
def defaultTimeout : Nat := 5000

end Config

open Config in
structure Config where
  shell : Shell := {}
  history : Location
  timeout : Nat := defaultTimeout
  flush : FlushPolicy := {}
  checks : Audit.Thresholds := {}
  size : Screen.Size := {}

namespace Config

def codec : Codec Config :=
  Codec.record "HarnessConfig" <|
    (Fields.cons (.required "shell" Shell.codec) <|
      Fields.cons (.required "history" Location.codec) <|
      Fields.cons (.required "expect_timeout_ms" (Codec.natural "u64" 64)) <|
      Fields.cons (.withDefault "flush" FlushPolicy.codec {}) <|
      Fields.cons (.withDefault "checks" Audit.Thresholds.codec {}) <|
      Fields.cons (.withDefault "size" Screen.Size.codec {}) Fields.done).map
    (fun (shell, history, timeout, flush, checks, size, ()) =>
      ⟨shell, history, timeout, flush, checks, size⟩)
    (fun c => (c.shell, c.history, c.timeout, c.flush, c.checks, c.size, ()))

def nonEmpty? (env : Variables) (name : String) : Option String :=
  (lookup? env name).filter (· ≠ "")

/-- The name of the history that the environment asks for. -/
def namespaceOf (env : Variables) : String :=
  match lookup? env namespaceVariable with
  | some name => if isValidNamespace name then name else defaultNamespace
  | none => defaultNamespace

/-- The settings that the environment asks for. -/
def ofEnvironment (env : Variables) : Config :=
  { history :=
      { name := namespaceOf env
        dataDir? := (nonEmpty? env dataVariable).map .ofString
        home? := (nonEmpty? env homeVariable).map .ofString } }

/-- The variables of the shell under test, so that it keeps its log where it is looked for: the
name of the history always, the directory for data if it is given, and the home directory unless
the policy sets it. -/
def shellEnv (c : Config) : EnvPolicy :=
  let set := Value.insertMember namespaceVariable c.history.name c.shell.env.set
  let set := match c.history.dataDir? with
    | some dir => Value.insertMember dataVariable dir.shown set
    | none => set
  let set := match c.history.home? with
    | some home =>
      if (lookup? set homeVariable).isSome then set else Value.insertMember homeVariable home.shown set
    | none => set
  { c.shell.env with set }

end Config

end HistoryAudit
