/-
  HistoryAudit.Proofs.Files.Joining

  Paths that are joined. The parts of such a path are those of the one and then
  those of the other (`parts_join`). So a path that ends in a name leads to that
  name in the directory to which the path before it leads (`locate_join`).
-/
import HistoryAudit.Proofs.Files.Removal
import HistoryAudit.Proofs.Text.OsText

namespace HistoryAudit.Files

namespace Path

/-! ## Pieces and parts -/

theorem pieces_ne_nil (bs : List UInt8) : pieces bs ≠ [] := by
  cases bs with
  | nil => exact List.cons_ne_nil _ _
  | cons b bs =>
    unfold pieces
    split
    · exact List.cons_ne_nil _ _
    · split <;> exact List.cons_ne_nil _ _

/-- A slash separates the pieces before it from those behind it. -/
theorem pieces_append_slash (as bs : List UInt8) :
    pieces (as ++ slash :: bs) = pieces as ++ pieces bs := by
  induction as with
  | nil => rfl
  | cons a as ih =>
    rw [List.cons_append, pieces, pieces, ih]
    by_cases hslash : a = slash
    · rw [if_pos hslash, if_pos hslash]
      rfl
    · rw [if_neg hslash, if_neg hslash]
      cases has : pieces as with
      | nil => exact absurd has (pieces_ne_nil as)
      | cons p ps => rfl

theorem pieces_of_not_mem {bs : List UInt8} (h : slash ∉ bs) : pieces bs = [bs] := by
  induction bs with
  | nil => rfl
  | cons b bs ih =>
    rw [List.mem_cons, not_or] at h
    have hslash : ¬b = slash := fun hb => h.1 hb.symm
    rw [pieces, if_neg hslash, ih h.2]

/-- A text without slashes is a single part, unless it leads nowhere. -/
theorem parts_of_not_mem {name : OsText} (h : slash ∉ name.bytes) (hempty : name.bytes ≠ [])
    (hdot : name ≠ ".") : parts name = [name] := by
  have hpoint : name.bytes ≠ [dot] := fun hone => hdot (OsText.ext_bytes hone)
  rw [parts, pieces_of_not_mem h, List.filter_cons_of_pos (by simpa using ⟨hempty, hpoint⟩)]
  rfl

/-- The parts of a text with a slash are those before it and those behind it. -/
theorem parts_of_slash {path : OsText} {as bs : List UInt8} (h : path.bytes = as ++ slash :: bs) :
    parts path = parts ⟨as⟩ ++ parts ⟨bs⟩ := by
  simp only [parts, h, pieces_append_slash, List.filter_append, List.map_append]

theorem parts_empty : parts ⟨[]⟩ = [] := rfl

theorem parts_join {base name : OsText} (h : isAbsolute name = false) :
    parts (join base name) = parts base ++ parts name := by
  rw [join, if_neg (Bool.eq_false_iff.mp h)]
  split
  · rename_i hend
    rcases hend with hempty | hslash
    · obtain rfl : base = ⟨[]⟩ := OsText.ext_bytes hempty
      rfl
    · -- The slash at the end of `base` has nothing behind it.
      obtain ⟨as, has⟩ := List.getLast?_eq_some_iff.mp hslash
      have hwhole : (base ++ name).bytes = as ++ slash :: name.bytes := by
        rw [OsText.bytes_append, has, List.append_assoc]
        rfl
      rw [parts_of_slash hwhole, parts_of_slash has, parts_empty, List.append_nil]
  · -- A slash was put between the two.
    have hwhole : (base ++ "/" ++ name).bytes = base.bytes ++ slash :: name.bytes := by
      rw [OsText.bytes_append, OsText.bytes_append, List.append_assoc]
      rfl
    rw [parts_of_slash hwhole]

/-- What is joined to a path stands behind it, with a slash between them where there is none. -/
theorem join_eq_append (base : OsText) {name : OsText} (h : isAbsolute name = false) :
    ∃ lead : OsText, lead.IsText ∧ join base name = base ++ (lead ++ name) := by
  rw [join, if_neg (Bool.eq_false_iff.mp h)]
  split
  · exact ⟨"", OsText.isText_ofString _, rfl⟩
  · exact ⟨"/", OsText.isText_ofString _, OsText.append_assoc ..⟩

theorem join_ne_nil (base : OsText) {name : OsText} (hname : name.bytes ≠ [])
    (h : isAbsolute name = false) : (join base name).bytes ≠ [] := by
  obtain ⟨lead, -, hjoin⟩ := join_eq_append base h
  rw [hjoin]
  simp [hname]

theorem isAbsolute_join {base name : OsText} (hbase : base.bytes ≠ [])
    (h : isAbsolute name = false) : isAbsolute (join base name) = isAbsolute base := by
  obtain ⟨lead, -, hjoin⟩ := join_eq_append base h
  rw [hjoin, isAbsolute, isAbsolute, OsText.bytes_append, List.head?_append_of_ne_nil _ hbase]

/-- A path to which a valid name is joined is valid as it was before. -/
theorem isText_join_iff {base name : OsText} (hname : name.IsText) (h : isAbsolute name = false) :
    (join base name).IsText ↔ base.IsText := by
  constructor
  · rw [join, if_neg (Bool.eq_false_iff.mp h)]
    intro hwhole
    split at hwhole
    · -- An empty base, or one with a slash at its end: nothing was put between.
      rename_i hend
      rcases hend with hempty | hslash
      · obtain rfl : base = ⟨[]⟩ := OsText.ext_bytes hempty
        exact OsText.isText_ofString ""
      · obtain ⟨bs, hbs⟩ := List.getLast?_eq_some_iff.mp hslash
        have hbase : base = ⟨bs⟩ ++ "/" := OsText.ext_bytes hbs
        have hsplit : base ++ name = ⟨bs ++ slash :: name.bytes⟩ := by
          refine OsText.ext_bytes ?_
          rw [OsText.bytes_append, hbs, List.append_assoc]
          rfl
        rw [hsplit] at hwhole
        have hbefore : (⟨bs⟩ : OsText).IsText := OsText.IsText.before_slash hwhole
        rw [hbase]
        exact hbefore.append (OsText.isText_ofString "/")
    · -- The slash that was put between ends the text of the base.
      have hsplit : base ++ "/" ++ name = ⟨base.bytes ++ slash :: name.bytes⟩ := by
        refine OsText.ext_bytes ?_
        rw [OsText.bytes_append, OsText.bytes_append, List.append_assoc]
        rfl
      rw [hsplit] at hwhole
      exact OsText.IsText.before_slash hwhole
  · intro hbase
    obtain ⟨lead, hlead, hjoin⟩ := join_eq_append base h
    rw [hjoin]
    exact hbase.append (hlead.append hname)

end Path

namespace Tree

variable {t : Tree} {route back : Route} {base name : OsText}

/-! ## Places -/

/-- The last part of a path, if it is a name, names something in the directory to which the other
parts lead. -/
theorem follow_concat {parts : List OsText} (hup : name ≠ "..")
    (h : t.follow back (parts ++ [name]) = .ok route) :
    ∃ dir, t.follow back parts = .ok dir ∧ t.find? dir = some .directory ∧
      route = dir ++ [name] := by
  -- Along the way to the directory; the name itself is the last step.
  induction parts generalizing back with
  | nil =>
    rw [List.nil_append] at h
    unfold follow at h
    cases hnode : t.find? back.reverse with
    | none =>
      rw [hnode] at h
      cases h
    | some node =>
      cases node with
      | file content =>
        rw [hnode] at h
        cases h
      | directory =>
        simp only [hnode, if_neg hup] at h
        split at h
        · cases h
        · cases h
          exact ⟨back.reverse, rfl, hnode, List.reverse_cons⟩
  | cons part rest ih =>
    rw [List.cons_append] at h
    unfold follow at h ⊢
    cases hnode : t.find? back.reverse with
    | none =>
      rw [hnode] at h
      cases h
    | some node =>
      cases node with
      | file content =>
        rw [hnode] at h
        cases h
      | directory =>
        simp only [hnode] at h ⊢
        split at h
        · rename_i hpart
          rw [if_pos hpart]
          exact ih h
        · rename_i hpart
          rw [if_neg hpart]
          split at h
          · cases h
          · rename_i hshort
            rw [if_neg hshort]
            exact ih h

/-- A path that begins an admitted one is admitted, unless it is empty. -/
theorem Admitted.of_append {rest : OsText} (hbase : base.bytes ≠ [])
    (h : Admitted (base ++ rest)) : Admitted base where
  noNull := by
    have hnull : 0 ∉ (base ++ rest).bytes := by simpa using h.noNull
    rw [OsText.bytes_append, List.mem_append, not_or] at hnull
    simpa using hnull.1
  notEmpty := hbase
  short := by
    have hshort := h.short
    rw [OsText.bytes_append, List.length_append] at hshort
    omega

/-- A name that is joined to a path stands in the directory to which this path leads. -/
theorem locate_join (hbase : base.bytes ≠ []) (hrelative : Path.isAbsolute name = false)
    (hname : Path.parts name = [name]) (hup : name ≠ "..")
    (h : t.locate (Path.join base name) = .ok route) :
    ∃ dir, t.locate base = .ok dir ∧ t.find? dir = some .directory ∧ route = dir ++ [name] := by
  obtain ⟨hadmitted, hfollow, -⟩ := locate_ok_iff.mp h
  -- Both paths are followed from the same directory.
  have hstart : t.start (Path.join base name) = t.start base := by
    rw [start, start, Path.isAbsolute_join hbase hrelative]
  rw [hstart, Path.parts_join hrelative, hname] at hfollow
  obtain ⟨dir, hdir, hnode, rfl⟩ := follow_concat hup hfollow
  obtain ⟨lead, -, hjoin⟩ := Path.join_eq_append base hrelative
  rw [hjoin] at hadmitted
  refine ⟨dir, locate_ok_iff.mpr ⟨hadmitted.of_append hbase, hdir, ?_⟩, hnode, rfl⟩
  rintro ⟨content, hfile⟩
  rw [hnode] at hfile
  cases hfile

end Tree

end HistoryAudit.Files
