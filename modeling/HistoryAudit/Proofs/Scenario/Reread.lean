/-
  HistoryAudit.Proofs.Scenario.Reread

  A scenario that was written to a file as JSON is loaded from there again, if it is
  one that is accepted at all.
-/
import HistoryAudit.Proofs.Files.Writing
import HistoryAudit.Proofs.Json.Restored
import HistoryAudit.Proofs.Text.Utf8
import HistoryAudit.Scenario.File

namespace HistoryAudit

open Json Codec Fields Field Variants

/-! ## Scenarios in JSON -/

theorem Checkpoint.restores (c : Checkpoint) : Checkpoint.codec.Restores 1 c := by
  refine restores_tagged ?_
  cases c with
  | prompt => exact .map restores_bare rfl
  | literal text =>
    have hfields := restores_single (restores_required "text" (restores_text text 0))
    exact .map (.behind_bare (restores_fields hfields (by decide)) (by decide)) rfl
  | regex pattern =>
    have hfields := restores_single (restores_required "pattern" (restores_text pattern 0))
    exact .map (.behind_bare (.behind_fields (restores_fields hfields (by decide)) (by decide))
      (by decide)) rfl

theorem Step.restores (s : Step) : Step.codec.Restores 2 s := by
  refine restores_record (.map ?_ rfl)
  exact .cons (restores_required _ (restores_text s.name 1))
    (.cons (restores_required _ (restores_text s.send 1))
      (.cons (restores_withDefault _ _ s.expect.restores) (restores_done 1) (by decide)) (by decide))
    (by decide)

theorem Scenario.restores (s : Scenario) : Scenario.codec.Restores 4 s := by
  refine restores_record (.map ?_ rfl)
  have hdescription : (Field.nullable "description" Codec.text).Restores 3 s.description? :=
    restores_nullable "description" fun text _ => ⟨restores_text text 3, nofun⟩
  exact .cons (restores_required _ (restores_text s.name 3))
    (.cons hdescription
      (.cons (restores_required _ (restores_list fun step _ => step.restores)) (restores_done 3)
        (by decide)) (by decide))
    (by decide)

/-! ## Scenarios in files -/

namespace Scenario

theorem Format.ofPath_eq_json {path : OsText}
    (h : ∀ e, Files.Path.extension? path = some e →
      e.toList.map Char.toLower ≠ "yaml".toList ∧ e.toList.map Char.toLower ≠ "yml".toList) :
    Format.ofPath path = .json := by
  unfold Format.ofPath
  cases hext : Files.Path.extension? path with
  | none => rfl
  | some e => exact if_neg (not_or.mpr (h e hext))

/-- A scenario that is in order is loaded from the file it was written to. -/
theorem load_of_write {scenario : Scenario} {files files' : Files.Tree} {path : OsText}
    (hcheck : scenario.check = .ok ()) (hformat : Format.ofPath path = .json)
    (hwrite : files.write path (Text.Utf8.encode (codec.toValue scenario).text) false =
      .ok files') : load files' path = .ok scenario := by
  have hdecode : codec.decode (codec.toValue scenario).text = .ok scenario :=
    scenario.restores.decode (by decide)
  rw [load, Files.Tree.read_of_write hwrite, ofRead, Text.Utf8.decode_encode]
  simp only [ofText, hformat, hdecode, hcheck]
  rfl

end Scenario

end HistoryAudit
