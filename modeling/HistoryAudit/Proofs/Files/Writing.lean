/-
  HistoryAudit.Proofs.Files.Writing

  What is written to a file is what is read from it afterwards. The node that is
  put into the tree stands at no directory, so the path leads to the same place
  as before, and there it stands.
-/
import HistoryAudit.Proofs.Files.Removal

namespace HistoryAudit.Files.Tree

variable {t t' : Tree} {path : OsText} {route : Route} {node : Node} {content : List UInt8}

/-! ## Putting a node in -/

theorem find?_insertNode_self (nodes : List (Route × Node)) :
    (insertNode route node nodes).find? (·.1 == route) = some (route, node) := by
  induction nodes with
  | nil => exact List.find?_cons_of_pos (beq_self_eq_true route)
  | cons entry nodes ih =>
    rw [insertNode]
    split
    · exact List.find?_cons_of_pos (beq_self_eq_true route)
    · split
      · exact List.find?_cons_of_pos (beq_self_eq_true route)
      · rename_i hne
        have hentry : (entry.1 == route) = false := beq_eq_false_iff_ne.mpr (Ne.symm hne)
        simp only [List.find?_cons, hentry, ih]

theorem find?_insertNode_of_ne {other : Route} (h : other ≠ route) (nodes : List (Route × Node)) :
    (insertNode route node nodes).find? (·.1 == other) = nodes.find? (·.1 == other) := by
  have hroute : (route == other) = false := beq_eq_false_iff_ne.mpr (Ne.symm h)
  induction nodes with
  | nil => simp only [insertNode, List.find?_cons, hroute]
  | cons entry nodes ih =>
    rw [insertNode]
    split
    · simp only [List.find?_cons, hroute]
    · split
      · rename_i heq
        simp only [List.find?_cons, hroute, ← heq]
      · simp only [List.find?_cons, ih]

theorem find?_insert_self (h : route ≠ []) : (t.insert route node).find? route = some node := by
  cases route with
  | nil => exact absurd rfl h
  | cons name rest =>
    show ((insertNode (name :: rest) node t.nodes).find? (·.1 == name :: rest)).map (·.2) = _
    rw [find?_insertNode_self, Option.map_some]

theorem find?_insert_of_ne {other : Route} (h : other ≠ route) :
    (t.insert route node).find? other = t.find? other := by
  cases other with
  | nil => rfl
  | cons name rest =>
    show ((insertNode route node t.nodes).find? (·.1 == name :: rest)).map (·.2) = _
    rw [find?_insertNode_of_ne h]
    rfl

/-! ## Writing a file -/

/-- Where no directory stands, a file may be put: the path leads there as before. -/
theorem locate_insert (hloc : t.locate path = .ok route) (hnode : t.find? route ≠ some .directory)
    (hname : Path.namesDirectory path = false) :
    (t.insert route (.file content)).locate path = .ok route := by
  have hdirs : ∀ r, t.find? r = some .directory →
      (t.insert route (.file content)).find? r = some .directory := by
    intro r hr
    have hne : r ≠ route := by
      rintro rfl
      exact hnode hr
    rw [find?_insert_of_ne hne, hr]
  obtain ⟨hadmitted, hfollow, -⟩ := locate_ok_iff.mp hloc
  exact locate_ok_iff.mpr
    ⟨hadmitted, follow_of_directories hdirs _ (Path.parts path) hfollow, fun _ => hname⟩

/-- A file that was written holds what was written. -/
theorem read_of_write (h : t.write path content false = .ok t') : t'.read path = .ok content := by
  unfold write at h
  cases hloc : t.locate path with
  | error e =>
    rw [hloc] at h
    cases h
  | ok route =>
    rw [hloc] at h
    simp only at h
    -- The node in the tree, where no directory stood.
    have hread : t.find? route ≠ some .directory → Path.namesDirectory path = false →
        (t.insert route (.file content)).read path = .ok content := by
      intro hnode hname
      have hroute : route ≠ [] := by
        rintro rfl
        exact hnode rfl
      rw [read, locate_insert hloc hnode hname]
      simp only [find?_insert_self hroute]
    cases hfind : t.find? route with
    | none =>
      rw [hfind] at h
      simp only at h
      split at h
      · cases h
      · rename_i hname
        cases h
        exact hread (by rw [hfind]; nofun) (Bool.eq_false_iff.mpr hname)
    | some node =>
      cases node with
      | directory =>
        rw [hfind] at h
        cases h
      | file old =>
        rw [hfind] at h
        cases h
        exact hread (by rw [hfind]; nofun) ((locate_ok_iff.mp hloc).2.2 ⟨old, hfind⟩)

/-- The same if directories were made before. -/
theorem read_of_place (h : t.place path content false = (t', none)) :
    t'.read path = .ok content := by
  unfold place at h
  split at h
  · cases h
  · split at h
    · rename_i hwrite
      cases h
      exact read_of_write hwrite
    · cases h

end HistoryAudit.Files.Tree
