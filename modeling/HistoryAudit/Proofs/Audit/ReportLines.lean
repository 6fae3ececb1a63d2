/-
  HistoryAudit.Proofs.Audit.ReportLines

  What the lines of a report may hold. Whatever a log has in it, it comes into a
  report in quotes: the commands, the lines that cannot be decoded, and the
  values that are no good. There is one exception. The `id` of a group without a
  command is put into the report as it is, so a line can be forged by an `id`
  with a line feed (`line_forged_by_id`), and in no other way
  (`lines_unbroken_iff`).
-/
import HistoryAudit.Harness.Artifact
import HistoryAudit.Proofs.Log.Malformed
import HistoryAudit.Proofs.Log.Refusal
import HistoryAudit.Proofs.Text.Lines

namespace HistoryAudit.Audit

open Log (Entry Group Malformed decodedLines groups)
open Text (Unbroken unbroken_append unbroken_int unbroken_intercalate unbroken_literal unbroken_nat
  unbroken_quoted)

/-! ## Findings -/

theorem unbroken_listed {texts : List String} (h : ∀ t ∈ texts, Unbroken t) :
    Unbroken (listed texts) := unbroken_intercalate (unbroken_literal rfl) h

theorem unbroken_described (e : Entry) : Unbroken (described e) := by
  show Unbroken ("line " ++ toString e.line ++ " " ++ Text.quoted e.cmd)
  rw [unbroken_append, unbroken_append, unbroken_append]
  exact ⟨⟨⟨unbroken_literal rfl, unbroken_nat _⟩, unbroken_literal rfl⟩, unbroken_quoted _⟩

theorem unbroken_codes (codes : List Int) : Unbroken (listed (codes.map toString)) := by
  refine unbroken_listed fun t ht => ?_
  obtain ⟨n, -, rfl⟩ := List.mem_map.mp ht
  exact unbroken_int n

/-- A finding has one of two messages. -/
theorem unbroken_ite {p : Property} {c : Prop} [Decidable c] {found violated : String}
    (hfound : Unbroken found) (hviolated : Unbroken violated) :
    Unbroken (if c then Finding.pass p found else Finding.fail p violated).message := by
  split
  · exact hfound
  · exact hviolated

section Checks

variable (entries : List Entry) (codes : List Int)

theorem checkMinEntries_unbroken (least : Nat) :
    Unbroken (checkMinEntries entries least).message := by
  refine unbroken_ite ?_ ?_
  · show Unbroken ("Found at least " ++ toString least ++ " history items")
    rw [unbroken_append, unbroken_append]
    exact ⟨⟨unbroken_literal rfl, unbroken_nat _⟩, unbroken_literal rfl⟩
  · show Unbroken ("expected at least " ++ toString least ++
      " well-formed history items, found " ++ toString entries.length)
    rw [unbroken_append, unbroken_append, unbroken_append]
    exact ⟨⟨⟨unbroken_literal rfl, unbroken_nat _⟩, unbroken_literal rfl⟩, unbroken_nat _⟩

theorem checkExitZero_unbroken : Unbroken (checkExitZero codes).message := by
  refine unbroken_ite (unbroken_literal rfl) ?_
  rw [unbroken_append, unbroken_append]
  exact ⟨⟨unbroken_literal rfl, unbroken_codes codes⟩, unbroken_literal rfl⟩

theorem checkExitFailure_unbroken (failure : Int) :
    Unbroken (checkExitFailure codes failure).message := by
  refine unbroken_ite ?_ ?_
  · show Unbroken ("Found exit code " ++ toString failure)
    rw [unbroken_append]
    exact ⟨unbroken_literal rfl, unbroken_int _⟩
  · show Unbroken ("no entry recorded nonzero exit code " ++ toString failure ++ " (recorded: [" ++
      listed (codes.map toString) ++ "])")
    rw [unbroken_append, unbroken_append, unbroken_append, unbroken_append]
    exact ⟨⟨⟨⟨unbroken_literal rfl, unbroken_int _⟩, unbroken_literal rfl⟩, unbroken_codes codes⟩,
      unbroken_literal rfl⟩

theorem checkUniversalDuration_unbroken :
    Unbroken (checkUniversalDuration entries).message := by
  refine unbroken_ite ?_ ?_
  · show Unbroken ("All " ++ toString entries.length ++ " items have duration")
    rw [unbroken_append, unbroken_append]
    exact ⟨⟨unbroken_literal rfl, unbroken_nat _⟩, unbroken_literal rfl⟩
  · have hmissing : Unbroken (listed ((entries.filter (·.dur?.isNone)).map described)) := by
      refine unbroken_listed fun t ht => ?_
      obtain ⟨e, -, rfl⟩ := List.mem_map.mp ht
      exact unbroken_described e
    show Unbroken (toString (entries.filter (·.dur?.isNone)).length ++ " of " ++
      toString entries.length ++ " items have no duration: " ++
      listed ((entries.filter (·.dur?.isNone)).map described))
    rw [unbroken_append, unbroken_append, unbroken_append, unbroken_append]
    exact ⟨⟨⟨⟨unbroken_nat _, unbroken_literal rfl⟩, unbroken_nat _⟩, unbroken_literal rfl⟩,
      hmissing⟩

end Checks

theorem checkBlocks_unbroken (blocks : List Entry) {label : String} (h : Unbroken label) :
    Unbroken (checkBlocks blocks label).1.message ∧
      Unbroken (checkBlocks blocks label).2.message := by
  have hwithExit : Unbroken (listed (blocks.filterMap fun e =>
      e.exit?.map fun code => described e ++ s!" recorded exit code {code}")) := by
    refine unbroken_listed fun t ht => ?_
    obtain ⟨e, -, he⟩ := List.mem_filterMap.mp ht
    obtain ⟨code, -, rfl⟩ := Option.map_eq_some_iff.mp he
    show Unbroken (described e ++ (" recorded exit code " ++ toString code))
    rw [unbroken_append, unbroken_append]
    exact ⟨unbroken_described e, unbroken_literal rfl, unbroken_int _⟩
  have hwithout : Unbroken (listed ((blocks.filter (·.dur?.isNone)).map fun e =>
      described e ++ " has no duration")) := by
    refine unbroken_listed fun t ht => ?_
    obtain ⟨e, -, rfl⟩ := List.mem_map.mp ht
    rw [unbroken_append]
    exact ⟨unbroken_described e, unbroken_literal rfl⟩
  -- The label stands beside fixed text, and the quoted entries come last.
  constructor
  · refine unbroken_ite ?_ ?_
    · rw [unbroken_append]
      exact ⟨h, unbroken_literal rfl⟩
    · rw [unbroken_append, unbroken_append, unbroken_append]
      exact ⟨⟨⟨unbroken_literal rfl, h⟩, unbroken_literal rfl⟩, hwithExit⟩
  · refine unbroken_ite ?_ ?_
    · rw [unbroken_append]
      exact ⟨h, unbroken_literal rfl⟩
    · rw [unbroken_append, unbroken_append, unbroken_append]
      exact ⟨⟨⟨unbroken_literal rfl, h⟩, unbroken_literal rfl⟩, hwithout⟩

theorem checkBlockEntries_unbroken (entries : List Entry) {start stop : String}
    (hstart : Unbroken start) (hstop : Unbroken stop) :
    Unbroken (checkBlockEntries entries start stop).1.message ∧
      Unbroken (checkBlockEntries entries start stop).2.message := by
  have hreason : Unbroken
      ("no entry contains both " ++ Text.quoted start ++ " and " ++ Text.quoted stop) := by
    rw [unbroken_append, unbroken_append, unbroken_append]
    exact ⟨⟨⟨unbroken_literal rfl, unbroken_quoted _⟩, unbroken_literal rfl⟩, unbroken_quoted _⟩
  have hlabel : Unbroken (start ++ ";" ++ stop) := by
    rw [unbroken_append, unbroken_append]
    exact ⟨⟨hstart, unbroken_literal rfl⟩, hstop⟩
  unfold checkBlockEntries
  simp only
  split
  · exact ⟨hreason, hreason⟩
  · exact checkBlocks_unbroken _ hlabel

/-- What is found about the properties is told in one line each, whatever the entries are. -/
theorem check_unbroken (entries : List Entry) {t : Thresholds} (hstart : Unbroken t.blockStart)
    (hstop : Unbroken t.blockEnd) : ∀ f ∈ check entries t, Unbroken f.message := by
  have hblocks := checkBlockEntries_unbroken entries hstart hstop
  simp only [check, List.forall_mem_cons]
  exact ⟨checkMinEntries_unbroken entries _, checkExitZero_unbroken _,
    checkExitFailure_unbroken _ _, checkUniversalDuration_unbroken entries, hblocks.1, hblocks.2,
    nofun⟩

/-- There is a finding for each property. -/
theorem length_check (entries : List Entry) (t : Thresholds) :
    (check entries t).length = Property.all.length := by
  rw [check]
  rfl

theorem unbroken_propertyText (p : Property) : Unbroken p.text := by
  cases p <;> exact unbroken_literal rfl

/-! ## Malformed lines -/

theorem unbroken_quoteLine (line : String) : Unbroken (Log.quoteLine line) := by
  unfold Log.quoteLine
  split
  · exact unbroken_quoted line
  · rw [unbroken_append]
    exact ⟨unbroken_quoted _, unbroken_literal rfl⟩

/-- Why a line could not be decoded is told in one line. -/
theorem unbroken_rejected {line : Nat × String} {m : Malformed}
    (h : Log.rejected? line = some m) : Unbroken m.reason := by
  obtain ⟨number, text⟩ := line
  rw [Log.rejected?] at h
  cases hparse : Log.Record.parse text with
  | ok r =>
    rw [hparse] at h
    cases h
  | error fault =>
    rw [hparse] at h
    cases h
    show Unbroken (fault.message ++ ": " ++ Log.quoteLine text)
    rw [unbroken_append, unbroken_append]
    exact ⟨⟨Log.Record.parse_unbroken hparse, unbroken_literal rfl⟩, unbroken_quoteLine text⟩

/-- That a command is missing is told in one line iff the `id` of the group is in one line. -/
theorem unbroken_incomplete_iff {g : Group} :
    Unbroken g.pending.incomplete ↔ ∀ id ∈ g.first.record.id?, Unbroken id := by
  rw [Group.incomplete_pending]
  cases g.first.record.id? with
  | none => exact ⟨fun _ => nofun, fun _ => unbroken_literal rfl⟩
  | some id =>
    have hends : Unbroken "history item " ∧ Unbroken " has no \"cmd\" field" :=
      ⟨unbroken_literal rfl, unbroken_literal rfl⟩
    rw [unbroken_append, unbroken_append]
    constructor
    · rintro ⟨⟨-, hid⟩, -⟩ id' ⟨⟩
      exact hid
    · intro hid
      exact ⟨⟨hends.1, hid id rfl⟩, hends.2⟩

/-! ## The report -/

namespace Report

/-- The line for a malformed line of the log. -/
def warning (m : Malformed) : String := s!"WARN line {m.line}: malformed record: " ++ m.reason

/-- The line for a property. -/
def told (f : Finding) : String :=
  if f.passed then f.message else "FAIL " ++ f.property.text ++ ": " ++ f.message

theorem unbroken_warning {m : Malformed} : Unbroken (warning m) ↔ Unbroken m.reason := by
  have hlead : Unbroken ("WARN line " ++ toString m.line ++ ": malformed record: ") := by
    rw [unbroken_append, unbroken_append]
    exact ⟨⟨unbroken_literal rfl, unbroken_nat _⟩, unbroken_literal rfl⟩
  show Unbroken ("WARN line " ++ toString m.line ++ ": malformed record: " ++ m.reason) ↔ _
  rw [unbroken_append]
  exact and_iff_right hlead

theorem warning_prefix (m : Malformed) : "WARN ".toList <+: (warning m).toList := by
  have hlead : "WARN ".toList <+: "WARN line ".toList := by decide
  show "WARN ".toList <+:
    ("WARN line " ++ toString m.line ++ ": malformed record: " ++ m.reason).toList
  rw [String.toList_append, String.toList_append, String.toList_append, List.append_assoc,
    List.append_assoc]
  exact hlead.trans (List.prefix_append _ _)

theorem unbroken_told {f : Finding} (h : Unbroken f.message) : Unbroken (told f) := by
  unfold told
  split
  · exact h
  · rw [unbroken_append, unbroken_append, unbroken_append]
    exact ⟨⟨⟨unbroken_literal rfl, unbroken_propertyText _⟩, unbroken_literal rfl⟩, h⟩

theorem lines_ofText (path : OsText) (text : String) (t : Thresholds) :
    (Report.mk path (.ofText text t)).lines =
      (Log.parse text).malformed.map warning ++ (check (Log.parse text).entries t).map told := rfl

end Report

/-- The `id` of every group without a command is in one line. -/
def IdsUnbroken (text : String) : Prop :=
  ∀ g ∈ groups (decodedLines text), g.entry? = none → ∀ id ∈ g.first.record.id?, Unbroken id

instance (text : String) : Decidable (IdsUnbroken text) :=
  inferInstanceAs (Decidable (∀ g ∈ groups (decodedLines text), _))

/-- The reasons are told in one line each iff the `id`s of groups without a command are. -/
theorem malformed_unbroken_iff {text : String} :
    (∀ m ∈ (Log.parse text).malformed, Unbroken m.reason) ↔ IdsUnbroken text := by
  constructor
  · intro h g hg hentry
    rw [← unbroken_incomplete_iff]
    exact h _ (Log.mem_parse_malformed.mpr (.inr ⟨g, hg, hentry, rfl⟩))
  · intro h m hm
    obtain hrejected | ⟨g, hg, hentry, rfl⟩ := Log.mem_parse_malformed.mp hm
    · obtain ⟨line, -, hline⟩ := List.mem_filterMap.mp hrejected
      exact unbroken_rejected hline
    · exact unbroken_incomplete_iff.mpr (h g hg hentry)

section Lines

variable {files : Files.Tree} {path : OsText} {text : String} {bytes : List UInt8}

theorem validate_of_read (hread : files.read path = .ok bytes)
    (htext : Text.Utf8.decode bytes = .ok text) (t : Thresholds) :
    validate files path t = ⟨path, .ofText text t⟩ := by
  rw [validate, hread]
  simp only [Outcome.ofRead, htext]

/-- No line of the report on a log is broken, iff no group without a command has an `id` with a
line break. Then what is printed has one physical line for each thing that is malformed, which
starts with a warning, and behind them one for each property. -/
theorem lines_unbroken_iff (hread : files.read path = .ok bytes)
    (htext : Text.Utf8.decode bytes = .ok text) :
    let r := validate files path {}
    ((∀ l ∈ r.lines, Unbroken l) ↔ IdsUnbroken text) ∧
      (IdsUnbroken text → ∃ warnings found : List String,
        Text.lines (String.join (r.lines.map (· ++ "\n"))) = warnings ++ found ∧
          warnings.length = (Log.parse text).malformed.length ∧
          (∀ l ∈ warnings, "WARN ".toList <+: l.toList) ∧
          found.length = Property.all.length) := by
  intro r
  have hr : r = ⟨path, .ofText text {}⟩ := validate_of_read hread htext {}
  -- Nothing found breaks a line: the warnings decide, and they quote the ids.
  have hlines : (∀ l ∈ r.lines, Unbroken l) ↔ IdsUnbroken text := by
    have hfound : ∀ l ∈ (check (Log.parse text).entries {}).map Report.told, Unbroken l := by
      intro l hl
      obtain ⟨f, hf, rfl⟩ := List.mem_map.mp hl
      exact Report.unbroken_told
        (check_unbroken _ (unbroken_literal rfl) (unbroken_literal rfl) f hf)
    rw [hr, Report.lines_ofText, List.forall_mem_append, and_iff_left hfound, List.forall_mem_map,
      ← malformed_unbroken_iff]
    exact forall₂_congr fun m _ => Report.unbroken_warning
  refine ⟨hlines, fun hids => ?_⟩
  refine ⟨(Log.parse text).malformed.map Report.warning,
    (check (Log.parse text).entries {}).map Report.told, ?_, ?_, ?_, ?_⟩
  · rw [Text.lines_join fun l hl => (hlines.mpr hids l hl).1, hr, Report.lines_ofText]
  · exact List.length_map _
  · intro l hl
    obtain ⟨m, -, rfl⟩ := List.mem_map.mp hl
    exact Report.warning_prefix m
  · rw [List.length_map, length_check]

end Lines

/-- Line feeds in a value of the wrong type and in a command; the text of a command is missing. -/
theorem lines_unbroken_wrong_type :
    let text := "\x7b\"exit\":\"\\n\"\x7d\n\x7b\"id\":\"a\"\x7d\n\x7b\"cmd\":\"\\n\"\x7d"
    let files : Files.Tree := { nodes := [(["h"], .file (Text.Utf8.encode text))] }
    files.read "h" = .ok (Text.Utf8.encode text) ∧
      Text.Utf8.decode (Text.Utf8.encode text) = .ok text ∧ IdsUnbroken text ∧
        (∀ l ∈ (validate files "h" {}).lines, Unbroken l) ∧
          ∃ warnings found : List String,
            Text.lines (String.join ((validate files "h" {}).lines.map (· ++ "\n"))) =
              warnings ++ found ∧ found.length = 6 := by
  intro text files
  have hread : files.read "h" = .ok (Text.Utf8.encode text) := by decide +kernel
  have htext : Text.Utf8.decode (Text.Utf8.encode text) = .ok text := by decide +kernel
  have hids : IdsUnbroken text := by decide +kernel
  obtain ⟨hlines, hprinted⟩ := lines_unbroken_iff hread htext
  obtain ⟨warnings, found, heq, -, -, hfound⟩ := hprinted hids
  exact ⟨hread, htext, hids, hlines.mpr hids, warnings, found, heq, hfound⟩

/-- The `id` of a command without a text holds a line feed. -/
theorem line_forged_by_id :
    ¬∀ (files : Files.Tree) (path : OsText) (text : String) (bytes : List UInt8),
        files.read path = .ok bytes → Text.Utf8.decode bytes = .ok text → Unbroken path.shown →
          ∀ l ∈ (validate files path {}).lines, Unbroken l := by
  intro hall
  let text := "\x7b\"id\":\"\\n\"\x7d"
  let files : Files.Tree := { nodes := [(["h"], .file (Text.Utf8.encode text))] }
  have hread : files.read "h" = .ok (Text.Utf8.encode text) := by decide +kernel
  have htext : Text.Utf8.decode (Text.Utf8.encode text) = .ok text := by decide +kernel
  have hlines := hall files "h" text _ hread htext (unbroken_literal rfl)
  revert hlines
  decide +kernel

end HistoryAudit.Audit
