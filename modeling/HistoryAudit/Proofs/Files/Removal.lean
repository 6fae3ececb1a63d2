/-
  HistoryAudit.Proofs.Files.Removal

  What stands at the end of a path, and what the removal of a file does to the
  tree. A path is followed through directories alone, so it leads to the same
  place when a file is taken out of the tree (`locate_erase`): after the removal
  nothing stands there, and all other places are as they were. A file that is
  barred from removal stays (`remove_ok_iff`).
-/
import HistoryAudit.Files.Tree
import Mathlib.Data.List.Basic

namespace HistoryAudit.Files.Tree

/-- A regular file stands at the end of the path. -/
def HasFile (t : Tree) (path : OsText) : Prop :=
  ∃ route content, t.locate path = .ok route ∧ t.find? route = some (.file content)

/-- A directory stands at the end of the path. -/
def HasDirectory (t : Tree) (path : OsText) : Prop :=
  ∃ route, t.locate path = .ok route ∧ t.find? route = some .directory

/-- Nothing stands at the end of the path, or the path has no end. -/
def Vacant (t : Tree) (path : OsText) : Prop :=
  ∀ route, t.locate path = .ok route → t.find? route = none

/-- A regular file stands at the end of the path, and something keeps it from being removed. -/
def Barred (t : Tree) (path : OsText) : Prop :=
  ∃ route content bar, t.locate path = .ok route ∧ t.find? route = some (.file content) ∧
    t.bar? route = some bar

/-- The path has no end, and not because a part of it is missing: a regular file stands in its way,
or it is none that the system allows. -/
def Blocked (t : Tree) (path : OsText) : Prop :=
  ∃ e, t.locate path = .error e ∧ e ≠ .notFound

variable {t t' : Tree} {path : OsText} {route : Route}

/-! ## Taking a node out -/

theorem find?_erase_self (h : route ≠ []) : (t.erase route).find? route = none := by
  cases route with
  | nil => exact absurd rfl h
  | cons name rest =>
    simp only [find?, erase, Option.map_eq_none_iff, List.find?_eq_none, List.mem_filter]
    rintro entry ⟨-, hentry⟩
    simpa using hentry

theorem find?_erase_of_ne {other : Route} (h : other ≠ route) :
    (t.erase route).find? other = t.find? other := by
  cases other with
  | nil => rfl
  | cons name rest =>
    have hfilter : (fun entry : Route × Node =>
          decide ((entry.1 != route) = true ∧ (entry.1 == name :: rest) = true)) =
        fun entry => entry.1 == name :: rest := by
      funext entry
      by_cases heq : entry.1 = name :: rest <;> simp [heq, h]
    simp only [find?, erase, List.find?_filter, hfilter]

/-- A file has a name: it does not stand at the root. -/
theorem ne_nil_of_file {content : List UInt8} (h : t.find? route = some (.file content)) :
    route ≠ [] := by
  rintro rfl
  cases h

/-! ## Following a path -/

/-- Only directories are passed on the way, so nothing else is asked of a tree. -/
theorem follow_of_directories
    (hdirs : ∀ r, t.find? r = some .directory → t'.find? r = some .directory) (back : Route)
    (parts : List OsText) {r : Route} (h : t.follow back parts = .ok r) :
    t'.follow back parts = .ok r := by
  induction parts generalizing back with
  | nil => exact h
  | cons part rest ih =>
    unfold follow at h ⊢
    cases hnode : t.find? back.reverse with
    | none =>
      rw [hnode] at h
      cases h
    | some node =>
      cases node with
      | file other =>
        rw [hnode] at h
        cases h
      | directory =>
        rw [hnode] at h
        rw [hdirs _ hnode]
        simp only at h ⊢
        by_cases hup : part = ".."
        · rw [if_pos hup] at h ⊢
          exact ih back.tail h
        · rw [if_neg hup] at h ⊢
          by_cases hlong : part.bytes.length > maxName
          · rw [if_pos hlong] at h
            cases h
          · rw [if_neg hlong] at h ⊢
            exact ih (part :: back) h

/-- A file that is taken out does not change the way. -/
theorem follow_erase {content : List UInt8} (hfile : t.find? route = some (.file content))
    (back : Route) (parts : List OsText) {r : Route} (h : t.follow back parts = .ok r) :
    (t.erase route).follow back parts = .ok r := by
  refine follow_of_directories (fun r hr => ?_) back parts h
  have hne : r ≠ route := by
    rintro rfl
    rw [hfile] at hr
    cases hr
  rw [find?_erase_of_ne hne, hr]

/-- A path that the system looks up. -/
structure Admitted (path : OsText) : Prop where
  noNull : path.bytes.contains 0 = false
  notEmpty : path.bytes ≠ []
  short : path.bytes.length ≤ maxPath

/-- When a path has an end: one that names a directory must not lead to a file. -/
theorem locate_ok_iff :
    t.locate path = .ok route ↔ Admitted path ∧ t.follow (t.start path) (Path.parts path) = .ok route ∧
      ((∃ content, t.find? route = some (.file content)) → Path.namesDirectory path = false) := by
  unfold locate
  constructor
  · intro h
    split at h
    · cases h
    rename_i hnull
    split at h
    · cases h
    rename_i hempty
    split at h
    · cases h
    rename_i hlong
    have hadmitted : Admitted path := ⟨Bool.eq_false_iff.mpr hnull, hempty, Nat.not_lt.mp hlong⟩
    -- A path that is admitted is followed, and a file must not be named a directory.
    cases hfollow : t.follow (t.start path) (Path.parts path) with
    | error e =>
      rw [hfollow] at h
      cases h
    | ok r =>
      rw [hfollow] at h
      simp only at h
      split at h
      · split at h
        · cases h
        · rename_i hname
          cases h
          exact ⟨hadmitted, rfl, fun _ => Bool.eq_false_iff.mpr hname⟩
      · rename_i hnone
        cases h
        refine ⟨hadmitted, rfl, ?_⟩
        rintro ⟨content, hfile⟩
        exact absurd hfile (hnone content)
  · rintro ⟨hadmitted, hfollow, hname⟩
    rw [if_neg (Bool.eq_false_iff.mp hadmitted.noNull), if_neg hadmitted.notEmpty,
      if_neg (Nat.not_lt.mpr hadmitted.short), hfollow]
    simp only
    split
    · rename_i content hfile
      rw [if_neg (Bool.eq_false_iff.mp (hname ⟨content, hfile⟩))]
    · rfl

/-- A path that leads to a file still leads to its place when the file is gone. -/
theorem locate_erase {content : List UInt8} (hloc : t.locate path = .ok route)
    (hfile : t.find? route = some (.file content)) :
    (t.erase route).locate path = .ok route := by
  obtain ⟨hadmitted, hfollow, -⟩ := locate_ok_iff.mp hloc
  have hgone : (t.erase route).find? route = none := find?_erase_self (ne_nil_of_file hfile)
  refine locate_ok_iff.mpr ⟨hadmitted, follow_erase hfile _ (Path.parts path) hfollow, ?_⟩
  rintro ⟨content', hfile'⟩
  rw [hgone] at hfile'
  cases hfile'

/-! ## Removing a file -/

theorem remove_ok_iff :
    t.remove path = .ok t' ↔ ∃ route content, t.locate path = .ok route ∧
      t.find? route = some (.file content) ∧ t.bar? route = none ∧ t' = t.erase route := by
  unfold remove
  cases hloc : t.locate path with
  | error e => simp
  | ok route =>
    cases hnode : t.find? route with
    | none => simp [hnode]
    | some node =>
      cases node with
      | directory => simp [hnode]
      | file content => cases hbar : t.bar? route <;> simp [hnode, hbar, eq_comm]

/-- A file is removed if there is one and nothing bars it from that. -/
theorem remove_iff : (∃ t', t.remove path = .ok t') ↔ t.HasFile path ∧ ¬t.Barred path := by
  unfold HasFile Barred
  constructor
  · rintro ⟨t', h⟩
    obtain ⟨route, content, hloc, hfile, hbar, -⟩ := remove_ok_iff.mp h
    refine ⟨⟨route, content, hloc, hfile⟩, ?_⟩
    rintro ⟨other, content', bar, hloc', -, hbar'⟩
    cases hloc.symm.trans hloc'
    cases hbar.symm.trans hbar'
  · rintro ⟨⟨route, content, hloc, hfile⟩, hfree⟩
    cases hbar : t.bar? route with
    | none => exact ⟨_, remove_ok_iff.mpr ⟨route, content, hloc, hfile, hbar, rfl⟩⟩
    | some bar => exact absurd ⟨route, content, bar, hloc, hfile, hbar⟩ hfree

/-- There is nothing to remove if nothing stands at the end of the path, and no file in its way. -/
theorem remove_notFound_iff :
    t.remove path = .error .notFound ↔ t.Vacant path ∧ ¬t.Blocked path := by
  unfold remove Vacant Blocked
  cases hloc : t.locate path with
  | error e => simp
  | ok route =>
    cases hnode : t.find? route with
    | none => simp [hnode]
    | some node =>
      cases node with
      | directory => simp [hnode]
      | file content => cases hbar : t.bar? route <;> simp [hnode, hbar]

/-- Otherwise the removal is refused. -/
theorem remove_refused_iff :
    (∃ e, t.remove path = .error e ∧ e ≠ .notFound) ↔
      t.Barred path ∨ t.HasDirectory path ∨ t.Blocked path := by
  unfold remove Barred HasDirectory Blocked
  cases hloc : t.locate path with
  | error e => simp
  | ok route =>
    cases hnode : t.find? route with
    | none => simp [hnode]
    | some node =>
      cases node with
      | directory => simp [hnode]
      | file content => cases hbar : t.bar? route <;> simp [hnode, hbar]

/-- After a removal nothing stands at the end of the path. -/
theorem vacant_of_remove (h : t.remove path = .ok t') : t'.Vacant path := by
  obtain ⟨route, content, hloc, hfile, -, rfl⟩ := remove_ok_iff.1 h
  intro r hr
  rw [locate_erase hloc hfile] at hr
  cases hr
  exact find?_erase_self (ne_nil_of_file hfile)

/-! ## Paths without a file -/

theorem Barred.hasFile (h : t.Barred path) : t.HasFile path := by
  obtain ⟨route, content, -, hloc, hfile, -⟩ := h
  exact ⟨route, content, hloc, hfile⟩

theorem Vacant.not_hasFile (h : t.Vacant path) : ¬t.HasFile path := by
  rintro ⟨route, content, hloc, hfile⟩
  rw [h route hloc] at hfile
  cases hfile

end HistoryAudit.Files.Tree
