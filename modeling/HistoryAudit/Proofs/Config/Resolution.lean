/-
  HistoryAudit.Proofs.Config.Resolution

  Where the shell under test keeps its log. The shell finds the place from its
  variables as the settings are made from theirs (`shell_finds_log`): the directory
  for data that is given comes first, then what the policy says of the directory
  for data, then the home directory, the policy's before that of the settings. So
  the shell keeps its log where it is looked for if a directory for data is given,
  or if the policy speaks of neither directory.
-/
import HistoryAudit.Config.Harness
import HistoryAudit.Proofs.Config.LogPath

namespace HistoryAudit.Config

open Json.Value (insertMember)

/-! ## Looking up variables -/

theorem lookup?_cons (entry : String × String) (env : Variables) (name : String) :
    lookup? (entry :: env) name = if entry.1 = name then some entry.2 else lookup? env name := by
  by_cases h : entry.1 = name
  · rw [if_pos h, lookup?, List.find?_cons_of_pos (by simpa using h)]
    rfl
  · rw [if_neg h, lookup?, List.find?_cons_of_neg (by simpa using h)]
    rfl

theorem lookup?_append (env env' : Variables) (name : String) :
    lookup? (env ++ env') name = (lookup? env name).or (lookup? env' name) := by
  rw [lookup?, List.find?_append, Option.map_or]
  rfl

/-- Setting a variable gives it the value and leaves the others as they are. -/
theorem lookup?_insertMember (env : Variables) (name value other : String) :
    lookup? (insertMember name value env) other =
      if name = other then some value else lookup? env other := by
  -- By the entries: the value goes in front of the first greater name, or in the place of its own.
  induction env with
  | nil => rw [insertMember, lookup?_cons]
  | cons entry rest ih =>
    unfold insertMember
    split
    · rw [lookup?_cons]
    · split
      · -- The value takes the place of the one before.
        rename_i hkey
        rw [lookup?_cons, lookup?_cons, ← hkey]
        split <;> rfl
      · rename_i hkey
        rw [lookup?_cons, ih, lookup?_cons]
        by_cases h : name = other
        · rw [if_pos h, if_pos h, if_neg (fun hentry => hkey (h.trans hentry.symm))]
        · rw [if_neg h, if_neg h]

/-! ## The variables of a process -/

namespace EnvPolicy

variable {p : EnvPolicy} {parent env : Variables}

/-- The value of a variable under the policy. -/
def value? (p : EnvPolicy) (parent : Variables) (name : String) : Option String :=
  (lookup? p.set name).or
    (if p.inherit = true ∧ name ∈ p.allowlist then lookup? parent name else none)

/-- The variables of a list of names, as the parent has them. -/
theorem lookup?_filterMap (parent : Variables) (names : List String) (name : String) :
    lookup? (names.filterMap fun n => (lookup? parent n).map (n, ·)) name =
      if name ∈ names then lookup? parent name else none := by
  -- A name that is not among the parent's drops out and is found in neither list.
  induction names with
  | nil => rfl
  | cons n names ih =>
    rw [List.filterMap_cons]
    cases hn : lookup? parent n with
    | none =>
      by_cases h : name = n
      · subst h
        simp [ih, hn]
      · simp [ih, h]
    | some v =>
      rw [Option.map_some, lookup?_cons, ih]
      by_cases h : name = n
      · subst h
        simp [hn]
      · simp [h, Ne.symm h]

/-- What is set is not passed on. -/
theorem lookup?_inherited (p : EnvPolicy) (parent : Variables) (name : String) :
    lookup? (p.inherited parent) name =
      if lookup? p.set name = none ∧ p.inherit = true ∧ name ∈ p.allowlist then
        lookup? parent name
      else none := by
  unfold inherited
  split
  · rename_i hinherit
    rw [lookup?_filterMap]
    simp [hinherit, and_comm]
  · rename_i hinherit
    simp [hinherit, lookup?]

/-- A policy that names no blocked variable passes on and sets what it says. -/
theorem resolve_of_blocked?_eq_none (parent : Variables) (h : p.blocked? = none) :
    p.resolve parent = .ok (p.inherited parent ++ p.set) := by
  rw [resolve, h]

/-- The variables that a policy comes to are those that it gives a value. -/
theorem lookup?_resolve (h : p.resolve parent = .ok env) (name : String) :
    lookup? env name = p.value? parent name := by
  unfold resolve at h
  split at h
  · cases h
  · cases h
    rw [lookup?_append, lookup?_inherited, value?]
    cases lookup? p.set name <;> simp

end EnvPolicy

/-! ## The variables of the shell -/

section ShellEnv

variable {parent env : Variables} {path : OsText}

/-- Sets a variable if there is a value for it. -/
def setGiven (set : Variables) (name : String) : Option String → Variables
  | some value => insertMember name value set
  | none => set

/-- Sets a variable if there is a value for it and it has none. -/
def setDefault (set : Variables) (name : String) : Option String → Variables
  | some value => if (lookup? set name).isSome then set else insertMember name value set
  | none => set

theorem shellEnv_set (c : HistoryAudit.Config) :
    c.shellEnv.set =
      setDefault (setGiven (insertMember namespaceVariable c.history.name c.shell.env.set)
        dataVariable (c.history.dataDir?.map (·.shown))) homeVariable
          (c.history.home?.map (·.shown)) := by
  unfold shellEnv setGiven setDefault
  cases c.history.dataDir? <;> cases c.history.home? <;> rfl

theorem lookup?_setGiven (set : Variables) (name : String) (value? : Option String)
    (other : String) :
    lookup? (setGiven set name value?) other =
      if name = other then value?.or (lookup? set other) else lookup? set other := by
  cases value? with
  | none => simp [setGiven]
  | some value => exact lookup?_insertMember set name value other

theorem lookup?_setDefault (set : Variables) (name : String) (value? : Option String)
    (other : String) :
    lookup? (setDefault set name value?) other =
      if name = other then (lookup? set other).or value? else lookup? set other := by
  cases value? with
  | none => simp [setDefault]
  | some value =>
    unfold setDefault
    by_cases hother : name = other
    · subst hother
      cases hset : lookup? set name <;> simp [lookup?_insertMember, hset]
    · cases lookup? set name <;> simp [lookup?_insertMember, hother]

/-- The variables that are set for the shell: the name of the history and the directory for data
go before what the policy sets, and the home directory goes behind it. -/
theorem lookup?_shellEnv (c : HistoryAudit.Config) :
    lookup? c.shellEnv.set namespaceVariable = some c.history.name ∧
      lookup? c.shellEnv.set dataVariable =
        (c.history.dataDir?.map (·.shown)).or (lookup? c.shell.env.set dataVariable) ∧
      lookup? c.shellEnv.set homeVariable =
        (lookup? c.shell.env.set homeVariable).or (c.history.home?.map (·.shown)) := by
  simp only [shellEnv_set, lookup?_setDefault, lookup?_setGiven, lookup?_insertMember]
  simp [namespaceVariable, dataVariable, homeVariable]

/-- So the policy of the shell gives these values. -/
theorem value?_shellEnv (c : HistoryAudit.Config) (parent : Variables) :
    c.shellEnv.value? parent namespaceVariable = some c.history.name ∧
      c.shellEnv.value? parent dataVariable =
        (c.history.dataDir?.map (·.shown)).or (c.shell.env.value? parent dataVariable) ∧
      (c.history.home? ≠ none → c.shellEnv.value? parent homeVariable =
        (lookup? c.shell.env.set homeVariable).or (c.history.home?.map (·.shown))) := by
  obtain ⟨hname, hdata, hhome⟩ := lookup?_shellEnv c
  simp only [EnvPolicy.value?, hname, hdata, hhome]
  refine ⟨rfl, Option.or_assoc, fun hgiven => ?_⟩
  obtain ⟨home, hsome⟩ := Option.ne_none_iff_exists'.mp hgiven
  rw [hsome]
  cases lookup? c.shell.env.set homeVariable <;> rfl

/-! ## The log of the shell -/

/-- Leaving out an empty value leaves one that is given as it is. -/
theorem filter_or {given? other? : Option String} (h : given? ≠ some "") :
    (given?.or other?).filter (· ≠ "") = given?.or (other?.filter (· ≠ "")) := by
  cases given? with
  | none => rfl
  | some value =>
    have hvalue : value ≠ "" := fun hempty => h (hempty ▸ rfl)
    simp [hvalue]

/-- A directory that is given is not shown as nothing. -/
theorem shown_ne_empty {given? : Option OsText} (h : given? ≠ some .empty) :
    given?.map (·.shown) ≠ some "" := by
  intro hempty
  obtain ⟨dir, rfl, hshown⟩ := Option.map_eq_some_iff.mp hempty
  exact h (congrArg some (OsText.ext_bytes (OsText.shown_eq_empty_iff.mp hshown)))

/-- The place that the shell finds: its own settings are those of the history as they are shown,
changed by what the policy says of the directories. -/
theorem ofEnvironment_shellEnv {c : HistoryAudit.Config}
    (hname : isValidNamespace c.history.name = true) (hdata : c.history.dataDir? ≠ some .empty)
    (h : c.shellEnv.resolve parent = .ok env) :
    (ofEnvironment env).history.name = c.history.name ∧
      (ofEnvironment env).history.dataDir? = ((c.history.dataDir?.map (·.shown)).or
        ((c.shell.env.value? parent dataVariable).filter (· ≠ ""))).map OsText.ofString ∧
      (c.history.home? ≠ none → (ofEnvironment env).history.home? =
        (((lookup? c.shell.env.set homeVariable).or (c.history.home?.map (·.shown))).filter
          (· ≠ "")).map OsText.ofString) := by
  obtain ⟨hvname, hvdata, hvhome⟩ := value?_shellEnv c parent
  refine ⟨?_, ?_, fun hgiven => ?_⟩
  · simp only [ofEnvironment, namespaceOf, EnvPolicy.lookup?_resolve h, hvname, hname, if_true]
  · simp only [ofEnvironment, nonEmpty?, EnvPolicy.lookup?_resolve h, hvdata]
    rw [filter_or (shown_ne_empty hdata)]
  · simp only [ofEnvironment, nonEmpty?, EnvPolicy.lookup?_resolve h, hvhome hgiven]

/-- The location with its directories as they are shown. -/
def Location.asShown (l : Location) : Location :=
  ⟨l.name, l.dataDir?.map (OsText.ofString ·.shown), l.home?.map (OsText.ofString ·.shown)⟩

/-- It has the same log iff the directory that counts is valid text, be it the one for data or the
home directory. -/
theorem Location.logPath?_asShown_iff {l : Location} (hname : IsHistoryName l.name) :
    l.asShown.logPath? = l.logPath? ↔ ∀ dir ∈ l.dataDir?.or l.home?, dir.IsText := by
  obtain ⟨name, dataDir?, home?⟩ := l
  -- The directory for data counts if there is one, and the home directory else.
  cases dataDir? with
  | some dir =>
    simp only [asShown, logPath?, baseDir?, Option.map_some, Option.some_or, Option.mem_def,
      Option.some.injEq, forall_eq']
    exact eq_shown_iff (fun _ => isText_logIn_iff hname) dir
  | none =>
    cases home? with
    | none => simp [asShown, logPath?, baseDir?]
    | some home =>
      simp only [asShown, logPath?, baseDir?, Option.map_some, Option.map_none, Option.none_or,
        Option.mem_def, Option.some.injEq, forall_eq']
      exact eq_shown_iff (fun _ => (isText_logIn_iff hname).trans isText_share_iff) home

/-- The shell finds the place of its log from its variables, which name the directories as they are
shown. If a directory for data is given, or if the policy speaks of neither directory, then it is the
log of the settings iff the directory that counts is valid text. -/
theorem shell_finds_log {c : HistoryAudit.Config} (hname : isValidNamespace c.history.name = true)
    (hdata : c.history.dataDir? ≠ some .empty) (hhome : c.history.home? ≠ some .empty)
    (hpath : c.history.logPath? = some path) (h : c.shellEnv.resolve parent = .ok env) :
    let found? := (ofEnvironment env).history.logPath?
    let given? := (c.shell.env.value? parent dataVariable).filter (· ≠ "")
    let data? := (c.history.dataDir?.map (·.shown)).or given?
    let home? :=
      ((lookup? c.shell.env.set homeVariable).or (c.history.home?.map (·.shown))).filter (· ≠ "")
    found? = Location.logPath?
        ⟨c.history.name, data?.map OsText.ofString, home?.map OsText.ofString⟩ ∧
      (c.history.dataDir? ≠ none ∨
          given? = none ∧ lookup? c.shell.env.set homeVariable = none →
        (found? = some path ↔ ∀ dir ∈ c.history.dataDir?.or c.history.home?, dir.IsText)) := by
  intro found? given? data? home?
  obtain ⟨hfname, hfdata, hfhome⟩ := ofEnvironment_shellEnv hname hdata h
  have hfound : found? = Location.logPath?
      ⟨c.history.name, data?.map OsText.ofString, home?.map OsText.ofString⟩ := by
    cases hdir : c.history.dataDir? with
    | some dir =>
      simp only [found?, Location.logPath?, Location.baseDir?, hfname, hfdata, hdir, data?,
        Option.map_some, Option.some_or]
    | none =>
      -- Without a directory for data there is a home directory, as the place of the log is known.
      have hgiven : c.history.home? ≠ none := by
        intro hnone
        simp only [Location.logPath?, Location.baseDir?, hdir, hnone] at hpath
        cases hpath
      simp only [found?, Location.logPath?, Location.baseDir?, hfname, hfdata, hfhome hgiven, hdir,
        data?, given?, home?]
  refine ⟨hfound, fun hsilent => ?_⟩
  -- What the shell finds is the place of the history, with the directories as they are shown.
  have hshown : found? = c.history.asShown.logPath? := by
    rw [hfound, Location.asShown]
    rcases hsilent with hdir | ⟨hnone, hunset⟩
    · obtain ⟨dir, hdir⟩ := Option.ne_none_iff_exists'.mp hdir
      simp only [Location.logPath?, Location.baseDir?, data?, hdir, Option.map_some, Option.some_or]
    · have hsame : home? = c.history.home?.map (·.shown) := by
        have hfull : ((c.history.home?.map (·.shown)).or none).filter (· ≠ "") =
            (c.history.home?.map (·.shown)).or none :=
          filter_or (shown_ne_empty hhome)
        simpa only [home?, hunset, Option.none_or, Option.or_none] using hfull
      rw [hsame]
      simp only [data?, hnone, Option.or_none, Option.map_map]
      rfl
  rw [hshown, ← hpath]
  exact Location.logPath?_asShown_iff (isValidNamespace_iff.mp hname)

/-- The policy passes on where the data of the user is, and the shell keeps its log there. -/
theorem shell_finds_log_passed_on :
    let c : HistoryAudit.Config :=
      { history := ⟨"h", none, some "home"⟩
        shell := { env := ⟨["PATH", "XDG_DATA_HOME"], [], true⟩ } }
    ∃ env, c.shellEnv.resolve [("HOME", "user"), ("XDG_DATA_HOME", "data")] = .ok env ∧
      c.history.logPath? = some (.ofString "home/.local/share/fish/h.jsonl") ∧
        (ofEnvironment env).history.logPath? = some (.ofString "data/fish/h.jsonl") := by
  intro c
  have hpath : c.history.logPath? = some (.ofString "home/.local/share/fish/h.jsonl") := by decide
  have hblocked : c.shellEnv.blocked? = none := by decide
  have hresolve := EnvPolicy.resolve_of_blocked?_eq_none
    [("HOME", "user"), ("XDG_DATA_HOME", "data")] hblocked
  have hfound := (shell_finds_log (by decide) (by decide) (by decide) hpath hresolve).1
  exact ⟨_, hresolve, hpath, hfound.trans (by decide)⟩

/-- A directory for data that only the policy sets is not where the log is looked for. -/
theorem shell_log_elsewhere :
    ¬∀ (c : HistoryAudit.Config) (parent env : Variables) (path : OsText),
        isValidNamespace c.history.name = true → c.history.dataDir? ≠ some .empty →
          c.history.home? ≠ some .empty → c.history.logPath? = some path →
            c.shellEnv.resolve parent = .ok env →
              (ofEnvironment env).history.logPath? = some path := by
  intro hall
  let c : HistoryAudit.Config :=
    { history := ⟨"h", none, some "home"⟩
      shell := { env := ⟨[], [("XDG_DATA_HOME", "data")], false⟩ } }
  have hsame := hall c [] _ "home/.local/share/fish/h.jsonl" (by decide) (by decide) (by decide)
    (by decide) (EnvPolicy.resolve_of_blocked?_eq_none [] (by decide))
  exact absurd hsame (by decide)

end ShellEnv

end HistoryAudit.Config
