/-
  HistoryAudit.Proofs.Config.ChildVariables

  The variables that a process gets under a policy, read in their order, a later
  value winning over an earlier one. They are those that the policy sets and those
  that it passes on, and no others (`lookup?_sortMembers_resolve`); a policy that
  names a blocked variable, in whatever case, gives none at all
  (`resolve_fails_iff`). So the parent is seen only through the names that are
  passed on (`resolve_congr`), and the shell of a run always learns the name of its
  history (`start_launch_namespace`).
-/
import HistoryAudit.Dialogue.Basic
import HistoryAudit.Proofs.Config.Resolution
import HistoryAudit.Proofs.Json.Sorted
import Mathlib.Data.List.Forall2

namespace HistoryAudit.Config

open Json.Value (insertMember sortMembers)

/-! ## Variables sorted by name -/

section Sorted

variable {env rest : Variables} {name value : String}

/-- The names of some variables. -/
def names (env : Variables) : List String := env.map Prod.fst

/-- The variables are sorted by name, and none is there twice. -/
def SortedByName (env : Variables) : Prop := env.Pairwise fun a b => a.1 < b.1

instance (env : Variables) : Decidable (SortedByName env) :=
  inferInstanceAs (Decidable (env.Pairwise fun a b => a.1 < b.1))

theorem lookup?_eq_none_iff : lookup? env name = none ↔ name ∉ names env := by
  simp only [lookup?, names, Option.map_eq_none_iff, List.find?_eq_none, List.mem_map, not_exists,
    not_and, beq_iff_eq]

theorem mem_of_lookup? (h : lookup? env name = some value) : (name, value) ∈ env := by
  obtain ⟨entry, hfound, hvalue⟩ := Option.map_eq_some_iff.mp h
  have hname : entry.1 = name := by simpa using List.find?_some hfound
  have hentry : entry = (name, value) := Prod.ext hname hvalue
  exact hentry ▸ List.mem_of_find?_eq_some hfound

theorem mem_names_of_mem (h : (name, value) ∈ env) : name ∈ names env :=
  List.mem_map.mpr ⟨_, h, rfl⟩

/-- Setting a variable keeps the order. -/
theorem SortedByName.insertMember (h : SortedByName env) (name value : String) :
    SortedByName (insertMember name value env) :=
  Json.Value.ascending_insertMember h name value

/-- Each name is listed with one value only, however often it is listed. -/
def OneValued (env : Variables) : Prop :=
  ∀ name value value', (name, value) ∈ env → (name, value') ∈ env → value = value'

theorem SortedByName.oneValued (h : SortedByName env) : OneValued env := by
  induction env with
  | nil => exact fun _ _ _ hv => nomatch hv
  | cons entry rest ih =>
    obtain ⟨hentry, hrest⟩ := List.pairwise_cons.mp h
    intro name value value' hv hv'
    rcases List.mem_cons.mp hv with hfirst | hlater
    · rcases List.mem_cons.mp hv' with hfirst' | hlater'
      · exact congrArg Prod.snd (hfirst.trans hfirst'.symm)
      · exact absurd (hfirst ▸ hentry _ hlater') (String.lt_irrefl _)
    · rcases List.mem_cons.mp hv' with hfirst' | hlater'
      · exact absurd (hfirst' ▸ hentry _ hlater) (String.lt_irrefl _)
      · exact ih hrest name value value' hlater hlater'

/-- Where each name has one value, a look finds what is listed. -/
theorem OneValued.lookup?_eq_some_iff (h : OneValued env) :
    lookup? env name = some value ↔ (name, value) ∈ env := by
  refine ⟨mem_of_lookup?, fun hmem => ?_⟩
  cases hlook : lookup? env name with
  | none => exact absurd (mem_names_of_mem hmem) (lookup?_eq_none_iff.mp hlook)
  | some found => rw [h name found value (mem_of_lookup? hlook) hmem]

/-- Variables that are read in their order: the last value of a name is the one that counts. -/
theorem lookup?_sortMembers (env : Variables) (name : String) :
    lookup? (sortMembers env) name = lookup? env.reverse name := by
  -- What is behind `sorted` goes before what is in it.
  have hfold : ∀ sorted : Variables,
      lookup? (env.foldl (fun sorted m => insertMember m.1 m.2 sorted) sorted) name =
        (lookup? env.reverse name).or (lookup? sorted name) := by
    induction env with
    | nil => exact fun _ => rfl
    | cons m env ih =>
      intro sorted
      rw [List.foldl_cons, ih, lookup?_insertMember, List.reverse_cons, lookup?_append,
        Option.or_assoc, lookup?_cons]
      split <;> rfl
  rw [sortMembers, hfold]
  exact Option.or_none

/-- It does not matter which of them counts where each name has one value. -/
theorem OneValued.lookup?_sortMembers (h : OneValued env) (name : String) :
    lookup? (sortMembers env) name = lookup? env name := by
  have hreverse : OneValued env.reverse := fun name value value' hv hv' =>
    h name value value' (List.mem_reverse.mp hv) (List.mem_reverse.mp hv')
  rw [Config.lookup?_sortMembers]
  apply Option.ext
  intro value
  rw [hreverse.lookup?_eq_some_iff, h.lookup?_eq_some_iff, List.mem_reverse]

/-- Settings that are made from an environment depend only on what a look finds in it. -/
theorem ofEnvironment_congr {env' : Variables} (h : ∀ name, lookup? env name = lookup? env' name) :
    ofEnvironment env = ofEnvironment env' := by
  simp only [ofEnvironment, namespaceOf, nonEmpty?, h]

end Sorted

/-! ## Blocked names -/

/-- The one character is a capital of the alphabet, and the other the same letter made small. -/
def IsCapitalOf (a b : Char) : Prop := 'A' ≤ a ∧ a ≤ 'Z' ∧ b.toNat = a.toNat + 32

/-- The texts are the same but for the case of their letters. -/
def SameButCase (s t : String) : Prop :=
  List.Forall₂ (fun a b => a = b ∨ IsCapitalOf a b ∨ IsCapitalOf b a) s.toList t.toList

theorem toNat_toLower (c : Char) :
    c.toLower.toNat = if 'A' ≤ c ∧ c ≤ 'Z' then c.toNat + 32 else c.toNat := by
  unfold Char.toLower
  split
  · rename_i h
    have hcapital : 'A' ≤ c ∧ c ≤ 'Z' := h
    have hle : c.val.toNat ≤ 90 := h.2
    rw [if_pos hcapital]
    change (c.val + 32).toNat = c.val.toNat + 32
    rw [UInt32.toNat_add]
    exact Nat.mod_eq_of_lt (by change c.val.toNat + 32 < 4294967296; omega)
  · rename_i h
    have hother : ¬('A' ≤ c ∧ c ≤ 'Z') := h
    rw [if_neg hother]

theorem toLower_eq_iff (a b : Char) :
    a.toLower = b.toLower ↔ a = b ∨ IsCapitalOf a b ∨ IsCapitalOf b a := by
  have hle : ∀ c d : Char, c ≤ d ↔ c.toNat ≤ d.toNat := fun c d => Iff.rfl
  have hA : 'A'.toNat = 65 := rfl
  have hZ : 'Z'.toNat = 90 := rfl
  rw [← Char.toNat_inj, ← Char.toNat_inj, toNat_toLower, toNat_toLower]
  simp only [IsCapitalOf, hle, hA, hZ]
  split <;> split <;> omega

theorem foldCase_eq_iff (s t : String) :
    EnvPolicy.foldCase s = EnvPolicy.foldCase t ↔ SameButCase s t := by
  rw [EnvPolicy.foldCase, EnvPolicy.foldCase, ← List.forall₂_eq_eq_eq, List.forall₂_map_left_iff,
    List.forall₂_map_right_iff, SameButCase]
  simp only [toLower_eq_iff]

/-- The name is that of a blocked variable, but for the case of its letters. -/
def Blocked (name : String) : Prop := ∃ b ∈ EnvPolicy.blocked, SameButCase b name

theorem isBlocked_iff (name : String) : EnvPolicy.isBlocked name = true ↔ Blocked name := by
  simp only [EnvPolicy.isBlocked, List.any_eq_true, beq_iff_eq, foldCase_eq_iff, Blocked]

namespace EnvPolicy

variable {p : EnvPolicy} {parent parent' env : Variables}

/-- The variables that are set stand in the order of their names. -/
def InOrder (p : EnvPolicy) : Prop := SortedByName p.set

instance (p : EnvPolicy) : Decidable p.InOrder := inferInstanceAs (Decidable (SortedByName p.set))

/-- All names that a policy speaks of. -/
def mentioned (p : EnvPolicy) : List String := p.allowlist ++ names p.set

theorem blocked?_eq_none_iff : p.blocked? = none ↔ ∀ name ∈ p.mentioned, ¬Blocked name := by
  rw [blocked?, List.find?_eq_none]
  simp only [isBlocked_iff]
  rfl

/-- A policy gives no variables iff it speaks of one that is blocked. -/
theorem resolve_fails_iff :
    (∃ f, p.resolve parent = .error f) ↔ ∃ name ∈ p.mentioned, Blocked name := by
  cases hblocked : p.blocked? with
  | none =>
    rw [resolve_of_blocked?_eq_none parent hblocked]
    have hnone := blocked?_eq_none_iff.mp hblocked
    constructor
    · rintro ⟨f, hf⟩
      cases hf
    · rintro ⟨name, hname, hb⟩
      exact absurd hb (hnone name hname)
  | some name =>
    have hmem : name ∈ p.mentioned := List.mem_of_find?_eq_some hblocked
    have hb : Blocked name := (isBlocked_iff name).mp (List.find?_some hblocked)
    refine ⟨fun _ => ⟨name, hmem, hb⟩, fun _ => ⟨blockedFailure name, ?_⟩⟩
    rw [resolve, hblocked]

/-- What is passed on is allowed and not set, and the parent has it. -/
theorem mem_inherited {name value : String} :
    (name, value) ∈ p.inherited parent ↔
      p.inherit = true ∧ name ∈ p.allowlist ∧ name ∉ names p.set ∧
        lookup? parent name = some value := by
  unfold inherited
  split
  · rename_i hinherit
    simp only [List.mem_filterMap, List.mem_filter, Option.map_eq_some_iff, Prod.mk.injEq,
      Option.isNone_iff_eq_none, lookup?_eq_none_iff, hinherit, true_and]
    constructor
    · rintro ⟨name', ⟨hallowed, hset⟩, value', hvalue, rfl, rfl⟩
      exact ⟨hallowed, hset, hvalue⟩
    · rintro ⟨hallowed, hset, hvalue⟩
      exact ⟨name, ⟨hallowed, hset⟩, value, hvalue, rfl, rfl⟩
  · rename_i hinherit
    exact ⟨(fun h => nomatch h), fun h => absurd h.1 hinherit⟩

/-- The variables that a policy comes to, one by one. -/
theorem mem_of_resolve (h : p.resolve parent = .ok env) {name value : String} :
    (name, value) ∈ env ↔
      (name, value) ∈ p.set ∨ p.inherit = true ∧ name ∈ p.allowlist ∧ name ∉ names p.set ∧
        lookup? parent name = some value := by
  unfold resolve at h
  split at h
  · cases h
  · cases h
    rw [List.mem_append, mem_inherited]
    exact or_comm

/-- A name that is allowed twice is passed on with the same value, and one that is set is not passed
on at all. -/
theorem oneValued_of_resolve (hp : p.InOrder) (h : p.resolve parent = .ok env) :
    OneValued env := by
  intro name value value' hv hv'
  have hset : OneValued p.set := SortedByName.oneValued hp
  rcases (mem_of_resolve h).mp hv with hvset | ⟨-, -, hunset, hvalue⟩
  · rcases (mem_of_resolve h).mp hv' with hvset' | ⟨-, -, hunset', -⟩
    · exact hset name value value' hvset hvset'
    · exact absurd (mem_names_of_mem hvset) hunset'
  · rcases (mem_of_resolve h).mp hv' with hvset' | ⟨-, -, -, hvalue'⟩
    · exact absurd (mem_names_of_mem hvset') hunset
    · exact Option.some.inj (hvalue.symm.trans hvalue')

/-- The process has a variable iff it is set, or passed on. -/
theorem lookup?_sortMembers_resolve (hp : p.InOrder) (h : p.resolve parent = .ok env)
    {name value : String} :
    lookup? (sortMembers env) name = some value ↔
      (name, value) ∈ p.set ∨ p.inherit = true ∧ name ∈ p.allowlist ∧ name ∉ names p.set ∧
        lookup? parent name = some value := by
  have hone := oneValued_of_resolve hp h
  rw [hone.lookup?_sortMembers, hone.lookup?_eq_some_iff, mem_of_resolve h]

theorem not_blocked_of_resolve (h : p.resolve parent = .ok env) {entry : String × String}
    (hentry : entry ∈ env) : ¬Blocked entry.1 := by
  intro hb
  have hname : entry.1 ∈ p.mentioned := by
    rcases (mem_of_resolve h).mp hentry with hset | ⟨-, hallowed, -⟩
    · exact List.mem_append_right _ (mem_names_of_mem hset)
    · exact List.mem_append_left _ hallowed
  obtain ⟨f, hf⟩ : ∃ f, p.resolve parent = .error f := resolve_fails_iff.mpr ⟨_, hname, hb⟩
  rw [h] at hf
  cases hf

/-- Of the parent nothing is seen but the variables that are passed on. -/
theorem resolve_congr
    (h : p.inherit = true → ∀ name ∈ p.allowlist, name ∉ names p.set →
      lookup? parent' name = lookup? parent name) :
    p.resolve parent' = p.resolve parent := by
  have hinherited : p.inherited parent' = p.inherited parent := by
    unfold inherited
    split
    · rename_i hinherit
      apply List.filterMap_congr
      intro name hname
      obtain ⟨hallowed, hunset⟩ := List.mem_filter.mp hname
      have hset : name ∉ names p.set :=
        lookup?_eq_none_iff.mp (Option.isNone_iff_eq_none.mp hunset)
      rw [h hinherit name hallowed hset]
    · rfl
  rw [resolve, resolve, hinherited]

end EnvPolicy

/-! ## The shell of a run -/

section Shell

variable {c : HistoryAudit.Config} {parent env : Variables}

/-- The settings of a history keep the order of what the policy sets. -/
theorem inOrder_shellEnv (h : c.shell.env.InOrder) : c.shellEnv.InOrder := by
  have hname : SortedByName (insertMember namespaceVariable c.history.name c.shell.env.set) :=
    SortedByName.insertMember h _ _
  have hdata : SortedByName (setGiven
      (insertMember namespaceVariable c.history.name c.shell.env.set) dataVariable
        (c.history.dataDir?.map (·.shown))) := by
    unfold setGiven
    split
    · exact hname.insertMember _ _
    · exact hname
  -- The home directory is set only where it is not set yet.
  unfold EnvPolicy.InOrder
  rw [shellEnv_set]
  unfold setDefault
  split
  · split
    · exact hdata
    · exact hdata.insertMember _ _
  · exact hdata

/-- The settings of a history add three names at most. -/
theorem mem_names_shellEnv {name : String} (h : name ∈ names c.shellEnv.set) :
    name ∈ names c.shell.env.set ∨ name ∈ [namespaceVariable, dataVariable, homeVariable] := by
  simp only [List.mem_cons, List.not_mem_nil, or_false]
  by_contra hnot
  simp only [not_or] at hnot
  obtain ⟨hold, hname, hdata, hhome⟩ := hnot
  have hlook : lookup? c.shellEnv.set name = none := by
    rw [shellEnv_set, lookup?_setDefault, if_neg (Ne.symm hhome), lookup?_setGiven,
      if_neg (Ne.symm hdata), lookup?_insertMember, if_neg (Ne.symm hname)]
    exact lookup?_eq_none_iff.mpr hold
  exact lookup?_eq_none_iff.mp hlook h

/-- What the shell of a run has under the name of a variable. -/
theorem lookup?_shellEnv_resolve (hp : c.shell.env.InOrder)
    (h : c.shellEnv.resolve parent = .ok env) (name : String) :
    lookup? (sortMembers env) name = c.shellEnv.value? parent name := by
  have hone := EnvPolicy.oneValued_of_resolve (inOrder_shellEnv hp) h
  rw [hone.lookup?_sortMembers, EnvPolicy.lookup?_resolve h]

/-- A shell that is launched has the variables that its policy comes to. -/
theorem launch_of_sessionStart {setup : Session.Setup} {d : Device} {s : Surroundings}
    {launch : Launch} (hd : d.launch? = none)
    (h : (Session.start setup parent d s).2.launch? = some launch) :
    ∃ env, setup.env.resolve parent = .ok env ∧ launch.env = sortMembers env := by
  unfold Session.start at h
  simp only at h
  split at h
  · -- The device was not opened.
    rw [hd] at h
    cases h
  · split at h
    · rw [hd] at h
      cases h
    · rw [hd] at h
      cases h
    · rename_i env hresolve _
      have hlaunch : launch = ⟨setup.command :: setup.args, sortMembers env, setup.cwd?⟩ := by
        split at h <;> exact (Option.some.inj h).symm
      exact ⟨env, hresolve, congrArg Launch.env hlaunch⟩

theorem launch_of_start {d : Device} {s : Surroundings} {launch : Launch} (hd : d.launch? = none)
    (h : (Dialogue.start c parent d s).2.launch? = some launch) :
    ∃ env, c.shellEnv.resolve parent = .ok env ∧ launch.env = sortMembers env := by
  unfold Dialogue.start at h
  simp only at h
  split at h
  · rename_i session d' heq
    have hdevice := congrArg (fun r : Except Failure Session × Device => r.2.launch?) heq
    exact launch_of_sessionStart hd (hdevice.trans h)
  · rename_i f d' heq
    have hdevice := congrArg (fun r : Except Failure Session × Device => r.2.launch?) heq
    exact launch_of_sessionStart hd (hdevice.trans h)

/-- The shell of a run learns the name of its history, whatever the policy says of it. -/
theorem start_launch_namespace (hp : c.shell.env.InOrder) {d : Device} {s : Surroundings}
    {launch : Launch} (hd : d.launch? = none)
    (h : (Dialogue.start c parent d s).2.launch? = some launch) :
    lookup? launch.env namespaceVariable = some c.history.name := by
  obtain ⟨env, hresolve, henv⟩ := launch_of_start hd h
  rw [henv, lookup?_shellEnv_resolve hp hresolve]
  exact (value?_shellEnv c parent).1

end Shell

/-! ## What a process can get -/

/-- What a policy, the variables of which are sorted as in any map, comes to for a parent: nothing
iff it speaks of a blocked variable; otherwise just what it sets and what it passes on, and never a
blocked variable. Parents that agree on what is passed on are not told apart, and the shell of any
settings learns the name of the history of these. -/
theorem resolve_confined (p : EnvPolicy) (hp : p.InOrder) (parent : Variables) :
    ((∃ f, p.resolve parent = .error f) ↔ ∃ name ∈ p.mentioned, Blocked name) ∧
    (∀ env, p.resolve parent = .ok env →
      (∀ name value, lookup? (sortMembers env) name = some value ↔
        (name, value) ∈ p.set ∨ p.inherit = true ∧ name ∈ p.allowlist ∧ name ∉ names p.set ∧
          lookup? parent name = some value) ∧
      ∀ entry ∈ env, ¬Blocked entry.1) ∧
    (∀ parent' : Variables,
      (p.inherit = true → ∀ name ∈ p.allowlist, name ∉ names p.set →
        lookup? parent' name = lookup? parent name) →
      p.resolve parent' = p.resolve parent) ∧
    ∀ (c : HistoryAudit.Config) (d : Device) (s : Surroundings) (launch : Launch),
      c.shell.env.InOrder → d.launch? = none →
        (Dialogue.start c parent d s).2.launch? = some launch →
          (∃ env, c.shellEnv.resolve parent = .ok env ∧ launch.env = sortMembers env) ∧
            lookup? launch.env namespaceVariable = some c.history.name := by
  refine ⟨EnvPolicy.resolve_fails_iff, ?_, ?_, ?_⟩
  · intro env h
    refine ⟨fun name value => EnvPolicy.lookup?_sortMembers_resolve hp h, ?_⟩
    intro entry hentry
    exact EnvPolicy.not_blocked_of_resolve h hentry
  · intro parent' hagree
    exact EnvPolicy.resolve_congr hagree
  · intro c d s launch hc hd hlaunch
    exact ⟨launch_of_start hd hlaunch, start_launch_namespace hc hd hlaunch⟩

/-- A name is allowed twice and in two cases, another is allowed and set. A second parent has other
secrets and another home. A policy that names a blocked variable in mixed case gives nothing. The
shell of settings whose policy names a history gets the name of the settings. -/
theorem resolve_confined_of_repeated_names :
    let p : EnvPolicy :=
      ⟨["PATH", "HOME", "PATH", "path"], [("HOME", "h"), ("TERM", "xterm")], true⟩
    let q : EnvPolicy := ⟨["PATH"], [("Ld_Preload", "x.so")], false⟩
    let parent : Variables :=
      [("HOME", "user"), ("PATH", "/bin"), ("SECRET", "1"), ("path", "/lib")]
    let parent' : Variables := [("HOME", "other"), ("PATH", "/bin"), ("path", "/lib")]
    let c : HistoryAudit.Config :=
      { history := .inDataDir "h" "d", shell := { env := ⟨[], [("fish_history", "mine")], true⟩ } }
    p.InOrder ∧ q.InOrder ∧ (∃ f, q.resolve parent = .error f) ∧
      (∃ env, p.resolve parent = .ok env ∧ env.length = 5 ∧
        lookup? (sortMembers env) "HOME" = some "h" ∧
          lookup? (sortMembers env) "SECRET" ≠ some "1") ∧
      p.resolve parent' = p.resolve parent ∧
      ∃ launch, (Dialogue.start c parent (.ofScript {}) {}).2.launch? = some launch ∧
        lookup? launch.env "fish_history" = some "h" := by
  intro p q parent parent' c
  have hp : p.InOrder := by decide
  have hq : q.InOrder := by decide
  obtain ⟨-, hgives, hagree, hshell⟩ := resolve_confined p hp parent
  have hblocked : ∃ name ∈ q.mentioned, Blocked name :=
    ⟨"Ld_Preload", by decide, (isBlocked_iff _).mp (by decide)⟩
  have hresolve : p.resolve parent = .ok (p.inherited parent ++ p.set) :=
    EnvPolicy.resolve_of_blocked?_eq_none parent (by decide)
  obtain ⟨hlook, -⟩ := hgives _ hresolve
  have hsecret : lookup? (sortMembers (p.inherited parent ++ p.set)) "SECRET" ≠ some "1" := by
    intro hsome
    rcases (hlook "SECRET" "1").mp hsome with hset | ⟨-, hallowed, -⟩
    · exact absurd hset (by decide)
    · exact absurd hallowed (by decide)
  have hhome := (hlook "HOME" "h").mpr (.inl (by decide))
  have hagreed : p.resolve parent' = p.resolve parent := hagree parent' (fun _ => by decide)
  obtain ⟨launch, hlaunch⟩ : ∃ launch,
      (Dialogue.start c parent (.ofScript {}) {}).2.launch? = some launch :=
    Option.isSome_iff_exists.mp (by decide)
  exact ⟨hp, hq, (resolve_confined q hq parent).1.mpr hblocked,
    ⟨_, hresolve, by decide, hhome, hsecret⟩, hagreed, launch, hlaunch,
    (hshell c _ _ launch (by decide) rfl hlaunch).2⟩

end HistoryAudit.Config
