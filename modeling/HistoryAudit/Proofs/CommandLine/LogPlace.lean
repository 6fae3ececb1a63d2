/-
  HistoryAudit.Proofs.CommandLine.LogPlace

  Where the log of a run is, by the options of the command and the environment. An
  option goes before the variable that says the same, and an invalid name is
  refused (`apply_ok_iff`). The name of a history holds no slash and no dot, so the
  log stands right in the directory `fish` of the directory for data
  (`parts_logIn`), and no other file can be removed by the run (`run_removes`). The
  shell makes the same settings from its own variables, but of a directory as it is
  shown (`child_finds_history`), so it finds the same log iff the directory that is
  asked for is valid text.
-/
import HistoryAudit.CommandLine.Command
import HistoryAudit.Proofs.Config.ChildVariables
import HistoryAudit.Proofs.Harness.Cleanup

namespace HistoryAudit

open Config Files
open Json.Value (sortMembers)

namespace CommandLine

open Config.Location (logIn parts_logIn isAbsolute_logIn locate_logIn)

namespace RunOptions

/-! ## Options -/

variable {o : RunOptions} {env : Variables} {c c' : Config}

/-- The name of the history of a run: the one that is asked for, or else a valid one of the
environment, or else the default. -/
def historyIn (o : RunOptions) (env : Variables) : String :=
  o.historyName?.getD
    (((lookup? env namespaceVariable).filter (isValidNamespace ·)).getD defaultNamespace)

/-- The directory for data of a run: the one that is asked for, or else the one of the environment,
or else the usual one below the home directory. Values that are empty do not count. -/
def baseIn? (o : RunOptions) (env : Variables) : Option OsText :=
  (o.dataDir?.or ((nonEmpty? env dataVariable).map .ofString)).or
    ((nonEmpty? env homeVariable).map fun home =>
      Path.join (Path.join (.ofString home) ".local") "share")

/-- No name is asked for, or a valid one. -/
def AsksForName (o : RunOptions) : Prop := ∀ name, o.historyName? = some name → IsHistoryName name

/-- What is asked for goes before the settings from which a run begins. -/
theorem apply_ok_iff :
    o.apply c = .ok c' ↔ o.AsksForName ∧
      c' = { c with
        history := ⟨o.historyName?.getD c.history.name, o.dataDir?.or c.history.dataDir?,
          c.history.home?⟩
        timeout := o.timeout?.getD c.timeout
        shell := o.shell c.shell } := by
  unfold apply AsksForName
  cases hname : o.historyName? with
  | none => simp [eq_comm]
  | some name =>
    by_cases hvalid : isValidNamespace name = true
    · simp [hvalid, isValidNamespace_iff.mp hvalid, eq_comm]
    · have hnot : ¬IsHistoryName name := fun h => hvalid (isValidNamespace_iff.mpr h)
      simp [hvalid, hnot]

/-- A name that is not valid is refused, whatever else is asked for. -/
theorem apply_refuses {name : String} (hname : o.historyName? = some name)
    (h : ¬IsHistoryName name) (c : Config) : o.apply c = .error (nameFailure name) := by
  have hvalid : ¬isValidNamespace name = true := fun hv => h (isValidNamespace_iff.mp hv)
  unfold apply
  simp only [hname, if_neg hvalid]

theorem namespaceOf_eq (env : Variables) :
    namespaceOf env =
      ((lookup? env namespaceVariable).filter (isValidNamespace ·)).getD defaultNamespace := by
  unfold namespaceOf
  cases lookup? env namespaceVariable with
  | none => rfl
  | some name => by_cases hvalid : isValidNamespace name = true <;> simp [Option.filter, hvalid]

/-- The history of a run, and the variables that its shell gets besides. -/
theorem history_of_apply (h : o.apply (.ofEnvironment env) = .ok c) :
    c.history =
        ⟨o.historyIn env, o.dataDir?.or ((nonEmpty? env dataVariable).map .ofString),
          (nonEmpty? env homeVariable).map .ofString⟩ ∧
      c.shell.env = .standard := by
  obtain ⟨-, rfl⟩ := apply_ok_iff.mp h
  refine ⟨?_, rfl⟩
  rw [historyIn, ← namespaceOf_eq]
  rfl

theorem isHistoryName_historyIn (h : o.AsksForName) (env : Variables) :
    IsHistoryName (o.historyIn env) := by
  unfold historyIn
  cases hname : o.historyName? with
  | some name => exact h name hname
  | none =>
    cases hlook : lookup? env namespaceVariable with
    | none => exact isHistoryName_default
    | some name =>
      by_cases hvalid : isValidNamespace name = true
      · simpa [Option.filter, hvalid] using isValidNamespace_iff.mp hvalid
      · simpa [Option.filter, hvalid] using isHistoryName_default

theorem baseDir?_of_apply (h : o.apply (.ofEnvironment env) = .ok c) :
    c.history.baseDir? = o.baseIn? env := by
  obtain ⟨hhistory, -⟩ := history_of_apply h
  rw [Location.baseDir?, hhistory, Option.map_map]
  rfl

theorem logPath?_of_apply (h : o.apply (.ofEnvironment env) = .ok c) :
    c.history.logPath? = (o.baseIn? env).map (logIn · (o.historyIn env)) := by
  obtain ⟨hhistory, -⟩ := history_of_apply h
  rw [Location.logPath?, baseDir?_of_apply h, hhistory]

theorem ne_empty_of_nonEmpty? {name value : String} (h : nonEmpty? env name = some value) :
    value ≠ "" := by
  unfold nonEmpty? at h
  simpa using (Option.filter_eq_some_iff.mp h).2

/-- The directory that is asked for is not empty, and an empty one of the environment does not
count. -/
theorem ne_nil_of_dataDir? {dir : OsText} (hdata : o.dataDir? ≠ some .empty)
    (h : o.dataDir?.or ((nonEmpty? env dataVariable).map .ofString) = some dir) :
    dir.bytes ≠ [] := by
  rcases Option.or_eq_some_iff.mp h with hasked | ⟨-, hvariable⟩
  · intro hnil
    exact hdata (hasked.trans (congrArg some (OsText.ext_bytes hnil)))
  · obtain ⟨value, hvalue, rfl⟩ := Option.map_eq_some_iff.mp hvariable
    exact OsText.bytes_ofString_ne_nil (ne_empty_of_nonEmpty? hvalue)

theorem ne_nil_of_baseIn? {base : OsText} (hdata : o.dataDir? ≠ some .empty)
    (h : o.baseIn? env = some base) : base.bytes ≠ [] := by
  rcases Option.or_eq_some_iff.mp h with hgiven | ⟨-, hhome⟩
  · exact ne_nil_of_dataDir? hdata hgiven
  · obtain ⟨home, -, rfl⟩ := Option.map_eq_some_iff.mp hhome
    exact Path.join_ne_nil _ (by decide) (by decide)

/-! ## The shell -/

/-- No option makes the policy of the shell speak of a blocked variable. -/
theorem blocked?_of_apply (h : o.apply (.ofEnvironment env) = .ok c) :
    c.shellEnv.blocked? = none := by
  obtain ⟨-, hpolicy⟩ := history_of_apply h
  rw [EnvPolicy.blocked?_eq_none_iff]
  intro name hname
  -- What the policy speaks of is the standard's own or belongs to the history.
  have hknown : name ∈ EnvPolicy.standard.mentioned ++
      [namespaceVariable, dataVariable, homeVariable] := by
    rcases List.mem_append.mp hname with hallowed | hset
    · have hsame : c.shell.env.allowlist = EnvPolicy.standard.allowlist :=
        congrArg EnvPolicy.allowlist hpolicy
      have hallowed : name ∈ c.shell.env.allowlist := hallowed
      exact List.mem_append_left _ (List.mem_append_left _ (hsame ▸ hallowed))
    · have hcases := mem_names_shellEnv hset
      rw [hpolicy] at hcases
      rcases hcases with hbefore | hhistory
      · exact List.mem_append_left _ (List.mem_append_right _ hbefore)
      · exact List.mem_append_right _ hhistory
  have hclear : ∀ name ∈ EnvPolicy.standard.mentioned ++
      [namespaceVariable, dataVariable, homeVariable], EnvPolicy.isBlocked name = false := by
    decide
  intro hb
  have hsafe := hclear name hknown
  rw [(isBlocked_iff name).mpr hb] at hsafe
  cases hsafe

/-- The home directory that the shell finds is that of the run: it is passed on by the standard
policy where the run did not set it. -/
theorem home?_of_child {child : Variables} (h : o.apply (.ofEnvironment env) = .ok c)
    (hresolve : c.shellEnv.resolve env = .ok child) :
    (nonEmpty? child homeVariable).map OsText.ofString = c.history.home? := by
  obtain ⟨hhistory, hpolicy⟩ := history_of_apply h
  have hhome : c.history.home? = (nonEmpty? env homeVariable).map OsText.ofString :=
    congrArg Location.home? hhistory
  have hunset : lookup? c.shell.env.set homeVariable = none := by
    rw [hpolicy]
    decide
  have hset : lookup? c.shellEnv.set homeVariable = nonEmpty? env homeVariable := by
    rw [(lookup?_shellEnv c).2.2, hunset, Option.none_or, hhome, Option.map_map]
    exact (Option.map_congr fun value _ => OsText.shown_ofString value).trans Option.map_id'
  have hpassed : c.shellEnv.inherit = true ∧ homeVariable ∈ c.shellEnv.allowlist := by
    change c.shell.env.inherit = true ∧ homeVariable ∈ c.shell.env.allowlist
    rw [hpolicy]
    decide
  rw [hhome]
  refine congrArg (Option.map OsText.ofString) ?_
  rw [nonEmpty?, EnvPolicy.lookup?_resolve hresolve, EnvPolicy.value?, hset, if_pos hpassed]
  cases hgiven : nonEmpty? env homeVariable with
  | some home =>
    have hne : home ≠ "" := ne_empty_of_nonEmpty? hgiven
    simp [hne]
  | none =>
    -- The parent has no home directory either, or an empty one.
    rw [Option.none_or]
    exact hgiven

/-- The shell gets its variables, and makes by them the settings of the history as the run does, but
of the directory for data as it is shown. -/
theorem child_finds_history (hdata : o.dataDir? ≠ some .empty)
    (h : o.apply (.ofEnvironment env) = .ok c) :
    ∃ child, c.shellEnv.resolve env = .ok child ∧
      lookup? (sortMembers child) namespaceVariable = some (o.historyIn env) ∧
        (ofEnvironment (sortMembers child)).history = c.history.asShown := by
  obtain ⟨hhistory, hpolicy⟩ := history_of_apply h
  obtain ⟨hasked, -⟩ := apply_ok_iff.mp h
  have hresolve := EnvPolicy.resolve_of_blocked?_eq_none env (blocked?_of_apply h)
  have horder : c.shell.env.InOrder := by
    rw [hpolicy]
    decide
  have hone := EnvPolicy.oneValued_of_resolve (inOrder_shellEnv horder) hresolve
  have hhome := home?_of_child h hresolve
  have hname : c.history.name = o.historyIn env := congrArg Location.name hhistory
  have hvalid : isValidNamespace c.history.name = true :=
    hname ▸ isValidNamespace_iff.mpr (isHistoryName_historyIn hasked env)
  have hgiven : c.history.dataDir? ≠ some .empty := by
    rw [hhistory]
    intro hempty
    exact ne_nil_of_dataDir? hdata hempty rfl
  have hhomeText : c.history.home?.map (OsText.ofString ·.shown) = c.history.home? := by
    rw [hhistory]
    cases nonEmpty? env homeVariable with
    | none => rfl
    | some home => exact congrArg some (OsText.isText_ofString home)
  -- The policy says nothing of the directory for data, so the shell has just the one that is given.
  have hnodata : c.shell.env.value? env dataVariable = none := by
    rw [hpolicy, EnvPolicy.value?, if_neg (by decide)]
    decide
  obtain ⟨hfname, hfdata, -⟩ := ofEnvironment_shellEnv hvalid hgiven hresolve
  refine ⟨_, hresolve, ?_, ?_⟩
  · rw [hone.lookup?_sortMembers, EnvPolicy.lookup?_resolve hresolve, (value?_shellEnv c env).1,
      hname]
  · rw [ofEnvironment_congr hone.lookup?_sortMembers]
    rw [hnodata, Option.filter_none, Option.or_none, Option.map_map] at hfdata
    exact (Location.mk.injEq ..).mpr ⟨hfname, hfdata, hhome.trans hhomeText.symm⟩

/-! ## What a run removes -/

/-- All that a run with these settings does to the files, apart from others, is to remove one, which
stands under this name right in the directory `fish` of the directory for data. -/
def RemovesOnly (base? : Option OsText) (file : String) (c : Config) : Prop :=
  ∀ (scenario : Scenario) (runId : String) (parent : Variables) (d : Device) (s : Surroundings),
    ∃ t : Surroundings,
      OthersActed (d.cues, s) ((Harness.run c scenario runId parent d s).device.cues, t) ∧
      ∀ route, (Harness.run c scenario runId parent d s).around.files.find? route ≠
          t.files.find? route →
        (∃ content, t.files.find? route = some (.file content)) ∧
          (Harness.run c scenario runId parent d s).around.files.find? route = none ∧
            ∃ base dir, base? = some base ∧ t.files.locate (Path.join base "fish") = .ok dir ∧
              route = dir ++ [OsText.ofString file]

/-- The file that is removed is the log. -/
theorem run_removes (hname : IsHistoryName c.history.name) :
    RemovesOnly c.history.baseDir? (c.history.name ++ ".jsonl") c := by
  intro scenario runId parent d s
  unfold Harness.run
  split
  -- A run that is refused, or that knows no place of the log, does nothing.
  · exact ⟨s, .refl, fun route hroute => absurd rfl hroute⟩
  · split
    · exact ⟨s, .refl, fun route hroute => absurd rfl hroute⟩
    · rename_i path hpath
      obtain ⟨base, hbase, rfl⟩ := Option.map_eq_some_iff.mp hpath
      have hclean := Harness.runAt_cleanedUp c scenario runId (logIn base c.history.name) parent d s
      refine ⟨_, hclean.others, ?_⟩
      intro route hroute
      rcases hclean.elsewhere route with hsame | ⟨hloc, hfile, hgone⟩
      · exact absurd hsame hroute
      · obtain ⟨dir, hdir, -, rfl⟩ := locate_logIn hname hloc
        exact ⟨hfile, hgone, base, dir, hbase, hdir, rfl⟩

/-! ## The place of the log -/

/-- What the options of a run and the environment say about the log, once the settings `c` were made
of them. -/
structure PlacesLog (o : RunOptions) (env : Variables) (c : Config) : Prop where
  isName : IsHistoryName (o.historyIn env)
  /-- The log is known iff a directory for data is. -/
  path : c.history.logPath? = (o.baseIn? env).map (logIn · (o.historyIn env))
  /-- It is the file with the name of the history in the directory `fish` there. -/
  direct : ∀ base, o.baseIn? env = some base →
    Path.parts (logIn base (o.historyIn env)) =
        Path.parts base ++ ["fish", o.historyIn env ++ ".jsonl"].map .ofString ∧
      Path.isAbsolute (logIn base (o.historyIn env)) = Path.isAbsolute base
  /-- No other file can be removed. -/
  removes : RemovesOnly (o.baseIn? env) (o.historyIn env ++ ".jsonl") c
  /-- The shell gets the name of the history, and finds the same log from its own variables iff the
  directory that is asked for is valid text. -/
  child : ∃ child, c.shellEnv.resolve env = .ok child ∧
    lookup? (sortMembers child) namespaceVariable = some (o.historyIn env) ∧
      ((ofEnvironment (sortMembers child)).history.logPath? = c.history.logPath? ↔
        ∀ dir, o.dataDir? = some dir → dir.IsText)

/-- What comes from the environment is text, so only a directory that is asked for can be invalid. -/
theorem forall_isText_iff (env : Variables) :
    (∀ dir ∈ (o.dataDir?.or ((nonEmpty? env dataVariable).map .ofString)).or
        ((nonEmpty? env homeVariable).map .ofString), OsText.IsText dir) ↔
      ∀ dir, o.dataDir? = some dir → dir.IsText := by
  cases hasked : o.dataDir? with
  | some dir => simp
  | none =>
    refine iff_of_true (fun dir hdir => ?_) nofun
    rw [Option.none_or] at hdir
    rcases Option.or_eq_some_iff.mp hdir with hdata | ⟨-, hhome⟩
    · obtain ⟨value, -, rfl⟩ := Option.map_eq_some_iff.mp hdata
      exact OsText.isText_ofString value
    · obtain ⟨value, -, rfl⟩ := Option.map_eq_some_iff.mp hhome
      exact OsText.isText_ofString value

/-- The path of the log is valid text if the directory that is asked for is. -/
theorem isText_logPath (h : o.apply (.ofEnvironment env) = .ok c)
    (htext : ∀ dir, o.dataDir? = some dir → dir.IsText) {path : OsText}
    (hpath : c.history.logPath? = some path) : path.IsText := by
  obtain ⟨hasked, -⟩ := apply_ok_iff.mp h
  rw [logPath?_of_apply h] at hpath
  obtain ⟨base, hbase, rfl⟩ := Option.map_eq_some_iff.mp hpath
  rw [Location.isText_logIn_iff (isHistoryName_historyIn hasked env)]
  rcases Option.or_eq_some_iff.mp hbase with hgiven | ⟨-, hhome⟩
  · rcases Option.or_eq_some_iff.mp hgiven with hdir | ⟨-, hvariable⟩
    · exact htext base hdir
    · obtain ⟨value, -, rfl⟩ := Option.map_eq_some_iff.mp hvariable
      exact OsText.isText_ofString value
  · obtain ⟨home, -, rfl⟩ := Option.map_eq_some_iff.mp hhome
    exact Location.isText_share_iff.mpr (OsText.isText_ofString home)

theorem placesLog_of_apply (hdata : o.dataDir? ≠ some .empty)
    (h : o.apply (.ofEnvironment env) = .ok c) : PlacesLog o env c := by
  obtain ⟨hhistory, -⟩ := history_of_apply h
  obtain ⟨hasked, -⟩ := apply_ok_iff.mp h
  have hname : c.history.name = o.historyIn env := congrArg Location.name hhistory
  have hvalid := isHistoryName_historyIn hasked env
  obtain ⟨child, hresolve, hlook, hfound⟩ := child_finds_history hdata h
  refine ⟨hvalid, logPath?_of_apply h, ?_, ?_, child, hresolve, hlook, ?_⟩
  · intro base hbase
    exact ⟨parts_logIn hvalid, isAbsolute_logIn (ne_nil_of_baseIn? hdata hbase) hvalid⟩
  · have hremoves := run_removes (hname ▸ hvalid)
    rwa [hname, baseDir?_of_apply h] at hremoves
  · rw [hfound, Location.logPath?_asShown_iff (hname ▸ hvalid), hhistory]
    exact forall_isText_iff env

/-- A run is accepted iff the name that is asked for, if any, is a name of a history; whatever else
is asked for, another name is refused. An accepted run has its log where the options and the
environment place it, unless the directory that is asked for is empty. -/
theorem log_placed (o : RunOptions) :
    (∀ c : Config, (∃ c', o.apply c = .ok c') ↔ o.AsksForName) ∧
    (∀ name, o.historyName? = some name → ¬IsHistoryName name →
      ∀ c : Config, o.apply c = .error (nameFailure name)) ∧
    (o.dataDir? ≠ some .empty → ∀ (env : Variables) (c : Config),
      o.apply (.ofEnvironment env) = .ok c → PlacesLog o env c) := by
  refine ⟨?_, ?_, ?_⟩
  · intro c
    constructor
    · rintro ⟨c', h⟩
      exact (apply_ok_iff.mp h).1
    · intro hasked
      exact ⟨_, apply_ok_iff.mpr ⟨hasked, rfl⟩⟩
  · intro name hname hnot c
    exact apply_refuses hname hnot c
  · intro hdata env c h
    exact placesLog_of_apply hdata h

/-- The name in the environment is not valid and the directory for data there is empty: the name is
the one that is asked for, and the log is below the home directory. A name with a slash is refused
beside any other option. -/
theorem log_placed_below_home :
    let o : RunOptions := { historyName? := some "n_1", timeout? := some 40, shell? := some "sh" }
    let refused : RunOptions := { o with historyName? := some "../n", dataDir? := some "d" }
    let env : Variables :=
      [("fish_history", "bad/name"), ("HOME", "home"), ("XDG_DATA_HOME", "")]
    let log : OsText := "home/.local/share/fish/n_1.jsonl"
    o.dataDir? ≠ some .empty ∧
    (∀ c : Config, refused.apply c = .error (nameFailure "../n")) ∧
      ∃ c, o.apply (.ofEnvironment env) = .ok c ∧ c.history.logPath? = some log ∧
        ∃ child, c.shellEnv.resolve env = .ok child ∧
          lookup? (sortMembers child) namespaceVariable = some "n_1" ∧
            (ofEnvironment (sortMembers child)).history.logPath? = some log := by
  intro o refused env log
  have hdata : o.dataDir? ≠ some .empty := by decide
  have hslash : ¬IsHistoryName "../n" := by
    rw [← isValidNamespace_iff]
    decide
  have hasked : o.AsksForName := by
    intro name hname
    cases hname
    exact isValidNamespace_iff.mp (by decide)
  obtain ⟨c, hc⟩ := ((log_placed o).1 (.ofEnvironment env)).mpr hasked
  obtain ⟨-, hpath, -, -, child, hresolve, hlook, hfound⟩ := (log_placed o).2.2 hdata env c hc
  have hplace : (o.baseIn? env).map (logIn · (o.historyIn env)) = some log := by decide +kernel
  refine ⟨hdata, (log_placed refused).2.1 "../n" rfl hslash, c, hc, hpath.trans hplace, child,
    hresolve, hlook, ?_⟩
  rw [hfound.mpr nofun, hpath, hplace]

/-- The directory that is asked for ends in a byte that stands in no text. The shell is told of
U+FFFD instead, and keeps its log in another directory. -/
theorem log_not_found_of_invalid_dir :
    ¬∀ (o : RunOptions) (env : Variables) (c : Config) (child : Variables), o.dataDir? ≠ some .empty →
        o.apply (.ofEnvironment env) = .ok c → c.shellEnv.resolve env = .ok child →
          (ofEnvironment (sortMembers child)).history.logPath? = c.history.logPath? := by
  intro hall
  let dir : OsText := ⟨Text.Utf8.encode "/tmp/d" ++ [0xff]⟩
  let o : RunOptions := { dataDir? := some dir }
  have hdata : o.dataDir? ≠ some .empty := by decide
  have happly : ∃ c, o.apply (.ofEnvironment []) = .ok c := ⟨_, rfl⟩
  obtain ⟨c, hc⟩ := happly
  obtain ⟨-, -, -, -, child, hresolve, -, hfound⟩ := placesLog_of_apply hdata hc
  have htext := hfound.mp (hall o [] c child hdata hc hresolve) dir rfl
  revert htext
  decide +kernel

end RunOptions

end CommandLine

end HistoryAudit
