/-
  HistoryAudit.Proofs.Config.LogPath

  The path of a log. The name of a history holds no slash and no dot, so the log
  stands right in the directory `fish` of the directory for data (`parts_logIn`,
  `locate_logIn`). A path that is made of a directory as it is shown leads elsewhere
  unless the directory is valid text (`eq_shown_iff`).
-/
import HistoryAudit.Config.Location
import HistoryAudit.Proofs.Files.Joining

namespace HistoryAudit

open Config Files

/-! ## Names of histories -/

section Names

variable {name : String}

/-- A name of one or more letters, digits and underscores of ASCII. -/
def IsHistoryName (name : String) : Prop :=
  name ≠ "" ∧ ∀ c ∈ name.toList,
    'a' ≤ c ∧ c ≤ 'z' ∨ 'A' ≤ c ∧ c ≤ 'Z' ∨ '0' ≤ c ∧ c ≤ '9' ∨ c = '_'

theorem isNameChar_iff (c : Char) :
    isNameChar c = true ↔
      'a' ≤ c ∧ c ≤ 'z' ∨ 'A' ≤ c ∧ c ≤ 'Z' ∨ '0' ≤ c ∧ c ≤ '9' ∨ c = '_' := by
  -- The classes of characters are told by their bounds.
  have hname : isNameChar c = (c.isUpper || c.isLower || c.isDigit || c == '_') := rfl
  have hupper : c.isUpper = decide ('A' ≤ c ∧ c ≤ 'Z') := rfl
  have hlower : c.isLower = (decide ('a' ≤ c) && decide (c ≤ 'z')) := rfl
  have hdigit : c.isDigit = (decide ('0' ≤ c) && decide (c ≤ '9')) := rfl
  rw [hname, hupper, hlower, hdigit]
  simp only [Bool.or_eq_true, Bool.and_eq_true, decide_eq_true_eq, beq_iff_eq, or_assoc]
  exact or_left_comm

theorem isValidNamespace_iff : isValidNamespace name = true ↔ IsHistoryName name := by
  simp only [isValidNamespace, Bool.and_eq_true, decide_eq_true_eq, List.all_eq_true,
    isNameChar_iff, IsHistoryName]
  simp

theorem isHistoryName_default : IsHistoryName defaultNamespace :=
  isValidNamespace_iff.mp (by decide)

/-- The name of the file is no short text, such as those that lead nowhere or up. -/
theorem file_ne (name : String) {other : OsText} (h : other.bytes.length < 6) :
    OsText.ofString (name ++ ".jsonl") ≠ other := by
  rintro rfl
  have hsix : (OsText.ofString ".jsonl").bytes.length = 6 := by decide
  rw [OsText.ofString_append, OsText.bytes_append, List.length_append] at h
  omega

theorem IsHistoryName.slash_not_mem (h : IsHistoryName name) :
    Path.slash ∉ (OsText.ofString (name ++ ".jsonl")).bytes := by
  refine OsText.slash_not_mem_ofString ?_
  rw [String.toList_append, List.mem_append]
  rintro (hname | hend)
  · have hchar := h.2 '/' hname
    revert hchar
    decide
  · revert hend
    decide

/-- The name of the file is a part of a path by itself. -/
theorem IsHistoryName.parts_file (h : IsHistoryName name) :
    Path.parts (name ++ ".jsonl" : String) = [OsText.ofString (name ++ ".jsonl")] := by
  refine Path.parts_of_not_mem h.slash_not_mem (fun hnil => ?_) (file_ne name (by decide))
  exact file_ne name (by decide) (OsText.ext_bytes hnil : _ = OsText.mk [])

theorem IsHistoryName.relative_file (h : IsHistoryName name) :
    Path.isAbsolute (name ++ ".jsonl" : String) = false := by
  rw [Path.isAbsolute, beq_eq_false_iff_ne]
  intro hfirst
  exact h.slash_not_mem (List.mem_of_mem_head? hfirst)

end Names

namespace Config.Location

/-! ## The place of a log -/

variable {base : OsText} {name : String} {files : Tree} {route : Route}

/-- The log of a history is the file with its name in the directory `fish`. -/
theorem parts_logIn (h : IsHistoryName name) :
    Path.parts (logIn base name) =
      Path.parts base ++ ["fish", name ++ ".jsonl"].map OsText.ofString := by
  have hfish : Path.parts "fish" = ["fish"] := by decide
  rw [logIn, Path.parts_join h.relative_file, Path.parts_join (by decide), h.parts_file, hfish,
    List.append_assoc]
  rfl

theorem isAbsolute_logIn (hbase : base.bytes ≠ []) (h : IsHistoryName name) :
    Path.isAbsolute (logIn base name) = Path.isAbsolute base := by
  have hfish : (Path.join base "fish").bytes ≠ [] := Path.join_ne_nil base (by decide) (by decide)
  rw [logIn, Path.isAbsolute_join hfish h.relative_file, Path.isAbsolute_join hbase (by decide)]

/-- What the path of a log leads to stands right in the directory `fish`. -/
theorem locate_logIn (h : IsHistoryName name) (hloc : files.locate (logIn base name) = .ok route) :
    ∃ dir, files.locate (Path.join base "fish") = .ok dir ∧
      files.find? dir = some .directory ∧ route = dir ++ [OsText.ofString (name ++ ".jsonl")] := by
  have hfish : (Path.join base "fish").bytes ≠ [] := Path.join_ne_nil base (by decide) (by decide)
  exact Tree.locate_join hfish h.relative_file h.parts_file (file_ne name (by decide)) hloc

/-- The path of a log is valid text iff the directory for data is. -/
theorem isText_logIn_iff (h : IsHistoryName name) : (logIn base name).IsText ↔ base.IsText := by
  rw [logIn, Path.isText_join_iff (OsText.isText_ofString _) h.relative_file,
    Path.isText_join_iff (OsText.isText_ofString _) (by decide)]

theorem isText_share_iff {home : OsText} :
    (Path.join (Path.join home ".local") "share").IsText ↔ home.IsText := by
  rw [Path.isText_join_iff (OsText.isText_ofString _) (by decide),
    Path.isText_join_iff (OsText.isText_ofString _) (by decide)]

/-- A path that is derived from a directory as it is shown is the one that is derived from the
directory itself iff that is valid text. -/
theorem eq_shown_iff {f : OsText → OsText} (hf : ∀ dir, (f dir).IsText ↔ dir.IsText)
    (dir : OsText) : f dir.shown = f dir ↔ dir.IsText := by
  constructor
  · intro heq
    exact (hf dir).mp (heq ▸ (hf dir.shown).mpr (OsText.isText_ofString _))
  · intro htext
    exact congrArg f htext

end Config.Location

end HistoryAudit
