/-
  HistoryAudit.Proofs.Harness.Reread

  The printed report of a run tells all of it: decoding the text gives the report
  again. The codecs of its parts restore them one by one, a failure in it has a flat
  context in sorted order (`Failure.Reported.restores`), and the identity of the run
  is written in its canonical form (`Uuid.restores_ofRandom`). The numbers are the
  only thing that is asked for: they have 64 bits (`Report.InWords`).
-/
import HistoryAudit.CommandLine.Outcome
import HistoryAudit.Proofs.Harness.Refusal
import HistoryAudit.Proofs.Scenario.Reported
import HistoryAudit.Proofs.Scenario.Reread
import HistoryAudit.Proofs.Text.OsText
import HistoryAudit.Proofs.Text.Unbroken

namespace HistoryAudit

open Json Codec Fields Field Variants

/-! ## The numbers of a report -/

/-- The numbers in the context of a failure. -/
def Failure.counts (f : Failure) : List Nat :=
  match f.context with
  | some (.object members) => members.filterMap fun m =>
    match m.2 with
    | .number (.int n) => some n.toNat
    | _ => none
  | _ => []

/-- The numbers in the result of a step. -/
def StepResult.counts (r : StepResult) : List Nat :=
  r.elapsed :: r.failure?.elim [] Failure.counts

/-- The numbers in the report of a scenario. -/
def ScenarioReport.counts (r : ScenarioReport) : List Nat :=
  r.steps.flatMap StepResult.counts ++ r.failure?.elim [] Failure.counts

/-- The numbers in the result of a validation. -/
def Audit.Report.counts (r : Audit.Report) : List Nat :=
  match r.outcome with
  | .checked entries _ malformed => entries :: malformed.map (·.line)
  | _ => []

namespace Harness.Report

/-- The numbers in a report. -/
def counts (r : Report) : List Nat :=
  r.endedAt :: (r.scenario.counts ++ r.validation?.elim [] Audit.Report.counts)

/-- All of them fit the fields that a report has for them, of 64 bits. -/
def InWords (r : Report) : Prop := ∀ n ∈ r.counts, n < Nat.pow 2 64

end Harness.Report

/-! ## Failures -/

theorem ErrorCode.restores (code : ErrorCode) (depth : Nat) : ErrorCode.codec.Restores depth code :=
  restores_choice (by cases code <;> rfl) depth

/-- A text, a list of texts, or a number of 64 bits. -/
inductive Json.Value.Flat : Value → Prop
  | string (s : String) : Flat (.string s)
  | strings (texts : List String) : Flat (.strings texts)
  | nat {n : Nat} (h : n < Nat.pow 2 64) : Flat (.nat n)

theorem Json.Value.Flat.storable {v : Value} (h : v.Flat) : v.Storable 1 := by
  cases h with
  | string s => exact .plain (.string s) 1
  | nat h => exact .plain (.nat (Nat.le_sub_one_of_lt h)) 1
  | strings texts =>
    refine .array fun v hv => ?_
    obtain ⟨s, -, rfl⟩ := List.mem_map.mp hv
    exact .plain (.string s) 0

theorem Json.Value.Flat.canonical {v : Value} (h : v.Flat) : v.canonical = v := by
  cases h with
  | string | nat => rfl
  | strings texts =>
    refine canonical_array fun v hv => ?_
    obtain ⟨s, -, rfl⟩ := List.mem_map.mp hv
    rfl

/-- The context of such a failure has its members in sorted order, and all are flat. -/
theorem Failure.Reported.context {f : Failure} (h : f.Reported)
    (hcounts : ∀ n ∈ f.counts, n < Nat.pow 2 64) :
    ∃ members, f.context = some (.object members) ∧
      (members.Pairwise fun a b => a.1 < b.1) ∧ ∀ m ∈ members, m.2.Flat := by
  cases h with
  | source message source =>
    exact ⟨_, rfl, List.pairwise_singleton _ _, List.forall_mem_singleton.mpr (.string source)⟩
  | exit p pending =>
    exact ⟨_, rfl, List.pairwise_singleton _ _, List.forall_mem_singleton.mpr (.string pending)⟩
  | timeout p waited pending screen =>
    -- The text left, the screen, the time waited: in this order by their names, too.
    have hwaited : waited < Nat.pow 2 64 := hcounts waited List.mem_cons_self
    refine ⟨_, rfl, ?_, ?_⟩
    · simp only [List.pairwise_cons, List.forall_mem_cons]
      decide
    · simp only [List.forall_mem_cons]
      exact ⟨.string pending, .strings _, .nat hwaited, List.forall_mem_nil _⟩
  | @length text f h =>
    unfold Pattern.checkLength at h
    simp only at h
    split at h
    · cases h
    · cases h
      have hlength : text.utf8ByteSize < Nat.pow 2 64 := hcounts _ List.mem_cons_self
      refine ⟨_, rfl, ?_, ?_⟩
      · simp only [List.pairwise_cons, List.forall_mem_cons]
        decide
      · simp only [List.forall_mem_cons]
        exact ⟨.nat hlength, .nat (by decide), List.forall_mem_nil _⟩

theorem Failure.Reported.restores {f : Failure} (h : f.Reported)
    (hcounts : ∀ n ∈ f.counts, n < Nat.pow 2 64) : Failure.codec.Restores 3 f := by
  refine restores_record (.map ?_ rfl)
  obtain ⟨members, hcontext, hsorted, hflat⟩ := h.context hcounts
  -- The context holds members that are flat and in order, so it is read back as written.
  have hany : Codec.any.Restores 2 (.object members) :=
    restores_any (.object fun m hm => (hflat m hm).storable)
      (Value.canonical_object hsorted fun m hm => (hflat m hm).canonical)
  have hfield : (Field.optional "context" Codec.any).Restores 2 f.context := by
    rw [hcontext]
    refine restores_optional "context" fun v hv => ?_
    cases hv
    exact ⟨hany, nofun⟩
  exact .cons (restores_required _ (f.code.restores 2))
    (.cons (restores_required _ (restores_text f.message 2))
      (.cons hfield (restores_done 2) (by decide)) (by decide))
    (by decide)

/-! ## Scenarios -/

theorem StepStatus.restores (s : StepStatus) (depth : Nat) : StepStatus.codec.Restores depth s :=
  restores_choice (by cases s <;> rfl) depth

/-- The member with the failure, if there is one. -/
theorem restores_failure? {f? : Option Failure} (h : ∀ f, f? = some f → f.Reported)
    (hcounts : ∀ n ∈ f?.elim [] Failure.counts, n < Nat.pow 2 64) {depth : Nat}
    (hdepth : 3 ≤ depth) : (Field.optional "error" Failure.codec).Restores depth f? := by
  refine restores_optional "error" fun f hf => ⟨((h f hf).restores ?_).mono hdepth, nofun⟩
  rw [hf] at hcounts
  exact hcounts

theorem StepResult.restores {r : StepResult} (h : ∀ f, r.failure? = some f → f.Reported)
    (hcounts : ∀ n ∈ r.counts, n < Nat.pow 2 64) : StepResult.codec.Restores 4 r := by
  obtain ⟨helapsed, hfailure⟩ := List.forall_mem_cons.mp hcounts
  refine restores_record (.map ?_ rfl)
  exact .cons (restores_required _ (restores_text r.name 3))
    (.cons (restores_required _ (r.status.restores 3))
      (.cons (restores_required _ (restores_natural (by decide) helapsed 3))
        (.cons (restores_failure? h hfailure (Nat.le_refl 3)) (restores_done 3) (by decide)) (by decide))
      (by decide))
    (by decide)

theorem ScenarioReport.restores {r : ScenarioReport}
    (hsteps : ∀ x ∈ r.steps, ∀ f, x.failure? = some f → f.Reported)
    (h : ∀ f, r.failure? = some f → f.Reported) (hcounts : ∀ n ∈ r.counts, n < Nat.pow 2 64) :
    ScenarioReport.codec.Restores 6 r := by
  obtain ⟨hstepCounts, hfailure⟩ := List.forall_mem_append.mp hcounts
  have hlist : StepResult.codec.list.Restores 5 r.steps := by
    refine restores_list fun x hx => StepResult.restores (hsteps x hx) fun n hn => ?_
    exact hstepCounts n (List.mem_flatMap.mpr ⟨x, hx, hn⟩)
  refine restores_record (.map ?_ rfl)
  exact .cons (restores_required _ (restores_text r.name 5))
    (.cons (restores_required _ hlist)
      (.cons (restores_failure? h hfailure (by decide)) (restores_done 5) (by decide)) (by decide))
    (by decide)

/-! ## Validations -/

namespace Audit

theorem Finding.restores (f : Finding) : Finding.codec.Restores 1 f := by
  have hproperty : Property.codec.Restores 0 f.property :=
    restores_choice (by cases f.property <;> rfl) 0
  refine restores_record (.map ?_ rfl)
  exact .cons (restores_required _ hproperty)
    (.cons (restores_required _ (restores_bool f.passed 0))
      (.cons (restores_required _ (restores_text f.message 0)) (restores_done 0) (by decide))
      (by decide))
    (by decide)

theorem restores_malformed {m : Log.Malformed} (hline : m.line < Nat.pow 2 64) :
    Log.Malformed.codec.Restores 1 m := by
  refine restores_record (.map ?_ rfl)
  exact .cons (restores_required _ (m.code.restores 0))
    (.cons (restores_required _ (restores_natural (by decide) hline 0))
      (.cons (restores_required _ (restores_text m.reason 0)) (restores_done 0) (by decide))
      (by decide))
    (by decide)

theorem Report.restores {r : Report} (hpath : r.path.IsText)
    (hcounts : ∀ n ∈ r.counts, n < Nat.pow 2 64) : Report.codec.Restores 4 r := by
  obtain ⟨path, outcome⟩ := r
  have houtcome : Outcome.codec.Restores 3 outcome := by
    refine restores_tagged ?_
    -- Each way the validation can end has its own tag and members.
    cases outcome with
    | missing => exact .map restores_bare rfl
    | unreadable message =>
      have hfields := restores_single (restores_required "message" (restores_text message 2))
      exact .map (.behind_bare (restores_fields hfields (by decide)) (by decide)) rfl
    | checked entries findings malformed =>
      obtain ⟨hentries, hlines⟩ := List.forall_mem_cons.mp hcounts
      have hcount : (Codec.natural "usize" 64).Restores 2 entries :=
        restores_natural (Nat.le_refl 64) hentries 2
      have hfindings : Finding.codec.list.Restores 2 findings :=
        restores_list fun f _ => f.restores
      have hmalformed : Log.Malformed.codec.list.Restores 2 malformed :=
        restores_list fun m hm => restores_malformed (hlines _ (List.mem_map_of_mem hm))
      have hfields := Fields.Restores.cons (restores_required "entries" hcount)
        (.cons (restores_required "properties" hfindings)
          (.cons (restores_required "malformed" hmalformed) (restores_done 2) (by decide))
          (by decide))
        (by decide)
      exact .map (.behind_bare (.behind_fields (restores_fields hfields (by decide)) (by decide))
        (by decide)) rfl
  refine restores_record (.map ?_ rfl)
  exact .cons (restores_required _ (restores_path hpath 3))
    (.cons (restores_required _ houtcome) (restores_done 3) (by decide)) (by decide)

end Audit

/-! ## The identity of a run -/

namespace Json.Uuid

theorem length_hexByte (b : UInt8) : (Text.hexByte b).length = 2 := by
  have hlength : (Nat.toDigits 16 b.toNat).length ≤ 2 :=
    (Nat.length_toDigits_le_iff (by decide) (by decide)).mpr b.toNat_lt
  rw [Text.hexByte, List.length_append, List.length_replicate]
  omega

/-- The digits of a byte are in lower case. -/
theorem lower_of_mem_hexByte {b : UInt8} {c : Char} (h : c ∈ Text.hexByte b) :
    Text.isHexDigit c = true ∧ lower c = c := by
  have hdigit : ∀ k < 16, Text.isHexDigit (Nat.digitChar k) = true ∧
      lower (Nat.digitChar k) = Nat.digitChar k := by decide
  rcases List.mem_append.mp h with hzero | hc
  · rw [List.eq_of_mem_replicate hzero]
    exact hdigit 0 (by decide)
  · obtain ⟨k, hk, rfl⟩ := Text.exists_digitChar_of_mem_toDigits (by decide) hc
    exact hdigit k hk

theorem length_flatMap_hexByte (bytes : List UInt8) :
    (bytes.flatMap Text.hexByte).length = 2 * bytes.length := by
  induction bytes with
  | nil => rfl
  | cons b bytes ih =>
    rw [List.flatMap_cons, List.length_append, length_hexByte, ih, List.length_cons]
    omega

variable {ds : List Char}

theorem mem_grouped {c : Char} (h : c ∈ grouped ds) : c = '-' ∨ c ∈ ds := by
  simp only [grouped, List.mem_append, List.mem_cons, or_assoc] at h
  rcases h with h | rfl | h | rfl | h | rfl | h | rfl | h
  · exact .inr (List.mem_of_mem_take h)
  · exact .inl rfl
  · exact .inr (List.mem_of_mem_drop (List.mem_of_mem_take h))
  · exact .inl rfl
  · exact .inr (List.mem_of_mem_drop (List.mem_of_mem_take h))
  · exact .inl rfl
  · exact .inr (List.mem_of_mem_drop (List.mem_of_mem_take h))
  · exact .inl rfl
  · exact .inr (List.mem_of_mem_drop h)

/-- The digits of a group stand between the places of the hyphens. -/
theorem all_group {group : List Char} {start : Nat}
    (hdigits : ∀ c ∈ group, Text.isHexDigit c = true)
    (hplaces : ∀ i, start ≤ i → i < start + group.length → i ≠ 8 ∧ i ≠ 13 ∧ i ≠ 18 ∧ i ≠ 23) :
    ((group.zipIdx start).all fun x =>
      if x.2 == 8 || x.2 == 13 || x.2 == 18 || x.2 == 23 then x.1 == '-'
      else Text.isHexDigit x.1) = true := by
  rw [List.all_eq_true]
  rintro ⟨c, i⟩ hmem
  obtain ⟨hle, hlt, hc⟩ := List.mem_zipIdx hmem
  have hne := hplaces i hle hlt
  have hc : c ∈ group := hc ▸ List.getElem_mem _
  simp [hne, hdigits c hc]

theorem isGrouped_grouped (hlength : ds.length = 32)
    (hdigits : ∀ c ∈ ds, Text.isHexDigit c = true) : isGrouped (grouped ds) = true := by
  have hfirst : ∀ c ∈ ds.take 8, Text.isHexDigit c = true := fun c hc =>
    hdigits c (List.mem_of_mem_take hc)
  have hinner (n : Nat) : ∀ c ∈ (ds.drop n).take 4, Text.isHexDigit c = true := fun c hc =>
    hdigits c (List.mem_of_mem_drop (List.mem_of_mem_take hc))
  have hlast : ∀ c ∈ ds.drop 20, Text.isHexDigit c = true := fun c hc =>
    hdigits c (List.mem_of_mem_drop hc)
  rw [isGrouped, Bool.and_eq_true]
  refine ⟨by simp [grouped, hlength], ?_⟩
  simp only [grouped, List.zipIdx_append, List.zipIdx_cons, List.all_append, List.all_cons,
    List.length_append, List.length_cons, List.length_take, List.length_drop, hlength,
    Bool.and_eq_true]
  -- Five groups with a hyphen between each two.
  refine ⟨⟨⟨⟨?_, rfl, ?_⟩, rfl, ?_⟩, rfl, ?_⟩, rfl, ?_⟩
  · exact all_group hfirst fun i _ hi => by rw [List.length_take] at hi; omega
  · exact all_group (hinner 8) fun i _ hi => by rw [List.length_take] at hi; omega
  · exact all_group (hinner 12) fun i _ hi => by rw [List.length_take] at hi; omega
  · exact all_group (hinner 16) fun i _ hi => by rw [List.length_take] at hi; omega
  · exact all_group hlast fun i hle _ => by omega

/-- Digits in groups are grouped, and they are no other written form. -/
theorem parse_grouped (hlength : ds.length = 32)
    (hdigits : ∀ c ∈ ds, Text.isHexDigit c = true ∧ lower c = c) :
    parse (String.ofList (grouped ds)) = .ok (String.ofList (grouped ds)) := by
  -- The other written forms begin with a brace or a scheme, whose characters are not in this one.
  have hother (c : Char) (hhyphen : c ≠ '-') (hdigit : Text.isHexDigit c = false) :
      c ∉ grouped ds := by
    intro hmem
    rcases mem_grouped hmem with rfl | hmem
    · exact hhyphen rfl
    · rw [(hdigits c hmem).1] at hdigit
      cases hdigit
  have hbrace : (grouped ds).head? ≠ some '\x7b' := fun hhead =>
    hother '\x7b' (by decide) rfl (List.mem_of_mem_head? hhead)
  have hscheme : (grouped ds).take 9 ≠ "urn:uuid:".toList := by
    intro htake
    have hmem : 'u' ∈ (grouped ds).take 9 := by rw [htake]; decide
    exact hother 'u' (by decide) rfl (List.mem_of_mem_take hmem)
  have hcore : core (grouped ds) = (grouped ds, 0, true) := by
    rw [core, if_neg fun h => hbrace h.2.1, if_neg hscheme]
  have hlower : (grouped ds).map lower = grouped ds := by
    refine (List.map_congr_left fun c hc => ?_).trans (List.map_id _)
    rcases mem_grouped hc with rfl | hc
    · rfl
    · exact (hdigits c hc).2
  rw [parse, String.toList_ofList, hcore]
  simp only [isGrouped_grouped hlength fun c hc => (hdigits c hc).1, hlower, if_true]

theorem restores_ofRandom {bytes : List UInt8} (h : bytes.length = 16) (depth : Nat) :
    codec.Restores depth (ofRandom bytes) := by
  have hparse : parse (ofRandom bytes) = .ok (ofRandom bytes) := by
    refine parse_grouped ?_ fun c hc => ?_
    · rw [length_flatMap_hexByte, List.length_mapIdx, h]
    · obtain ⟨b, -, hc⟩ := List.mem_flatMap.mp hc
      exact lower_of_mem_hexByte hc
  refine restores_leaf (.string _) ?_ depth
  simp only [hparse]

end Json.Uuid

/-! ## Reports -/

namespace Harness

theorem Cleanup.restores (c : Cleanup) : Cleanup.codec.Restores 1 c := by
  refine restores_tagged ?_
  cases c with
  | removed => exact .map restores_bare rfl
  | absent => exact .map (.behind_bare restores_bare (by decide)) rfl
  | failed message =>
    have hfields := restores_single (restores_required "message" (restores_text message 0))
    exact .map (.behind_bare (.behind_bare (restores_fields hfields (by decide)) (by decide))
      (by decide)) rfl

/-- A report is restored if its numbers have 64 bits, its failures are such as a scenario reports,
its paths are valid text, and it has the identity of a run. -/
theorem Report.restores {r : Report} {bytes : List UInt8} (hversion : r.version = reportVersion)
    (hid : r.runId = Uuid.ofRandom bytes) (hbytes : bytes.length = 16)
    (hsteps : ∀ x ∈ r.scenario.steps, ∀ f, x.failure? = some f → f.Reported)
    (hfailure : ∀ f, r.scenario.failure? = some f → f.Reported) (hwords : r.InWords)
    (hlog : r.logPath.IsText) (hpaths : ∀ v, r.validation? = some v → v.path.IsText) :
    Report.codec.Restores 7 r := by
  obtain ⟨hended, hothers⟩ := List.forall_mem_cons.mp hwords
  obtain ⟨hscenario, hvalidation⟩ := List.forall_mem_append.mp hothers
  have hvalidated : (Field.nullable "validation" Audit.Report.codec).Restores 6 r.validation? := by
    refine restores_nullable "validation" fun v hv => ?_
    rw [hv] at hvalidation
    exact ⟨(Audit.Report.restores (hpaths v hv) hvalidation).mono (by decide), nofun⟩
  -- The version has fewer bits than the other numbers, so its bound is not among theirs.
  have hcount : (Codec.natural "u32" 32).Restores 6 r.version :=
    restores_natural (by decide) (by rw [hversion]; decide) 6
  have hrunId : Uuid.codec.Restores 6 r.runId := hid ▸ Uuid.restores_ofRandom hbytes 6
  have hreport := ScenarioReport.restores hsteps hfailure hscenario
  refine restores_record (.map ?_ rfl)
  exact .cons (restores_required _ hcount)
    (.cons (restores_required _ hrunId)
      (.cons (restores_required _ (restores_path hlog 6))
        (.cons (restores_required _ hreport)
          (.cons hvalidated
            (.cons (restores_required _ (r.cleanup.restores.mono (by decide)))
              (.cons (restores_required _ (restores_natural (by decide) hended 6))
                (restores_done 6) (by decide)) (by decide)) (by decide)) (by decide)) (by decide))
      (by decide))
    (by decide)

section Runs

variable {c : Config} {scenario : Scenario} {runId : String} {parent : Config.Variables}
  {d : Device} {s : Surroundings} {r : Report}

theorem identity_of_run (h : (run c scenario runId parent d s).result = .ok r) :
    r.version = reportVersion ∧ r.runId = runId := by
  unfold run at h
  split at h
  · cases h
  · split at h
    · cases h
    · unfold runAt at h
      split at h
      · cases h
      · split at h
        · cases h
        · cases h
          exact ⟨rfl, rfl⟩

theorem reported_of_run (h : (run c scenario runId parent d s).result = .ok r) :
    (∀ x ∈ r.scenario.steps, ∀ f, x.failure? = some f → f.Reported) ∧
      ∀ f, r.scenario.failure? = some f → f.Reported := by
  obtain ⟨f, hrefused⟩ | ⟨path, g, hbegins⟩ := refused_or_begins c scenario parent d s
  · rw [(run_of_refused hrefused).1] at h
    cases h
  · obtain ⟨report, g', hreport, hrun⟩ := run_of_begins runId hbegins
    cases h.symm.trans hreport
    exact Dialogue.runScenario_reported hrun

theorem decode_of_run {bytes : List UInt8} (hbytes : bytes.length = 16)
    (h : (run c scenario (Uuid.ofRandom bytes) parent d s).result = .ok r) (hwords : r.InWords)
    (htext : r.logPath.IsText) :
    Report.codec.decode (Report.codec.toValue r).text = .ok r := by
  obtain ⟨hversion, hid⟩ := identity_of_run h
  obtain ⟨hsteps, hfailure⟩ := reported_of_run h
  have hpaths : ∀ v, r.validation? = some v → v.path.IsText := by
    intro v hv
    rw [(run_paths h).2 v hv]
    exact htext
  exact (Report.restores hversion hid hbytes hsteps hfailure hwords htext hpaths).decode (by decide)

end Runs

/-- What is written as JSON is read as it was. The text that a run prints decodes to its report,
whatever the run came to, if its identity is made of sixteen bytes, its numbers have the 64 bits
of their fields and the path of the log is valid text. A scenario that is in order is loaded again
from a file with its text, unless the extension asks for another format. -/
theorem report_and_scenario_reread :
    (∀ (c : Config) (scenario : Scenario) (bytes : List UInt8) (parent : Config.Variables)
      (d : Device) (s : Surroundings) (r : Report), bytes.length = 16 →
        (run c scenario (Uuid.ofRandom bytes) parent d s).result = .ok r → r.InWords →
        r.logPath.IsText →
          ∃ text, (CommandLine.Outcome.ofRun true (.ok r)).output = [text] ∧
            Report.codec.decode text = .ok r) ∧
    ∀ (scenario : Scenario) (files files' : Files.Tree) (path : OsText),
      scenario.check = .ok () →
      (∀ e, Files.Path.extension? path = some e →
        e.toList.map Char.toLower ≠ "yaml".toList ∧ e.toList.map Char.toLower ≠ "yml".toList) →
      files.write path (Text.Utf8.encode (Scenario.codec.toValue scenario).text) false =
        .ok files' →
          Scenario.load files' path = .ok scenario := by
  refine ⟨fun c scenario bytes parent d s r hbytes hresult hwords htext => ?_,
    fun scenario files files' path hcheck hextension hwrite => ?_⟩
  · have hprinted : CommandLine.Outcome.ofRun true (.ok r) =
        CommandLine.Outcome.ofReport true true (Report.codec.toValue r) r.lines
          (CommandLine.Outcome.statusOf r.passed r.errorCode?) := by
      rw [CommandLine.Outcome.ofRun, printable_of_run hresult htext]
    exact ⟨_, by rw [hprinted]; rfl, decode_of_run hbytes hresult hwords htext⟩
  · exact Scenario.load_of_write hcheck (Scenario.Format.ofPath_eq_json hextension) hwrite

/-- The first prompt does not come in time, so the report tells of a failure with the odd characters
that came instead. -/
theorem report_and_scenario_reread_timeout :
    let c : Config := { history := .inDataDir "h" "d", timeout := 40 }
    let d : Device := .ofScript
      { cues := [{ output := .data (Text.Utf8.encode "é\"\\\x07\x7b\n") }] }
    let bytes : List UInt8 := List.replicate 16 171
    let saved := Text.Utf8.encode (Scenario.codec.toValue .standard).text
    (∃ r text, (run c .standard (Uuid.ofRandom bytes) [] d {}).result = .ok r ∧
      r.scenario.failure?.map (·.code) = some .timeout ∧
      (CommandLine.Outcome.ofRun true (.ok r)).output = [text] ∧
        Report.codec.decode text = .ok r) ∧
    ∃ files, Files.Tree.empty.write "s.txt" saved false = .ok files ∧
      Scenario.load files "s.txt" = .ok .standard := by
  intro c d bytes saved
  have hrun : (run c .standard (Uuid.ofRandom bytes) [] d {}).result.toOption.map
      (fun r => (r.counts, r.scenario.failure?.map (·.code))) =
        some ([40, 0, 0, 0, 0, 0, 40], some .timeout) := by
    decide +kernel
  obtain ⟨r, hr, hread⟩ := Option.map_eq_some_iff.mp hrun
  obtain ⟨hcounts, hcode⟩ := Prod.mk.inj hread
  have hresult := Dialogue.ok_of_toOption hr
  -- The counts of this report are small.
  have hwords : r.InWords := by
    intro n hn
    rw [hcounts] at hn
    have hall : ∀ n ∈ [40, 0, 0, 0, 0, 0, 40], n < Nat.pow 2 64 := by decide
    exact hall n hn
  have htext : r.logPath.IsText := by
    have hpath : c.history.logPath? = some (.ofString "d/fish/h.jsonl") := by decide
    rw [Option.some.inj ((run_paths hresult).1.symm.trans hpath)]
    exact OsText.isText_ofString _
  obtain ⟨text, houtput, hdecode⟩ :=
    report_and_scenario_reread.1 c .standard bytes [] d {} r rfl hresult hwords htext
  refine ⟨⟨r, text, hresult, hcode, houtput, hdecode⟩, ?_⟩
  have hwrite : (Files.Tree.empty.write "s.txt" saved false).toOption.isSome = true := by
    decide +kernel
  obtain ⟨files, hfiles⟩ := Option.isSome_iff_exists.mp hwrite
  have hwritten := Dialogue.ok_of_toOption hfiles
  have hextension : Files.Path.extension? "s.txt" = some "txt" := by decide
  refine ⟨files, hwritten, ?_⟩
  refine report_and_scenario_reread.2 .standard _ files "s.txt" rfl (fun e he => ?_) hwritten
  rw [hextension] at he
  cases he
  decide

end Harness

end HistoryAudit
