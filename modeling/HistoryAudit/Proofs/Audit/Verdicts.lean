/-
  HistoryAudit.Proofs.Audit.Verdicts

  What each property asks of the entries, said without the check, and that the
  check decides just this. The two properties of blocks are decided by three
  scans of the same entries; together they hold iff some block conforms.
-/
import HistoryAudit.Audit.Report
import HistoryAudit.Proofs.Text.Occurrence

namespace HistoryAudit.Audit

open Log (Entry)

/-! ## The properties -/

/-- Both marks of a block occur in the command. -/
def IsBlock (t : Thresholds) (e : Entry) : Prop :=
  t.blockStart.toList <:+: e.cmd.toList ∧ t.blockEnd.toList <:+: e.cmd.toList

instance (t : Thresholds) (e : Entry) : Decidable (IsBlock t e) :=
  inferInstanceAs (Decidable (_ ∧ _))

/-- The entry has no exit code, but a duration. -/
def Conforming (e : Entry) : Prop := e.exit? = none ∧ e.dur? ≠ none

instance (e : Entry) : Decidable (Conforming e) := inferInstanceAs (Decidable (_ ∧ _))

/-- What a property asks of the entries. -/
def Property.Holds (t : Thresholds) (es : List Entry) : Property → Prop
  | .minEntries => t.minEntries ≤ es.length
  | .exitZero => ∃ e ∈ es, e.exit? = some 0
  | .exitFailure => t.failureExit ≠ 0 ∧ ∃ e ∈ es, e.exit? = some t.failureExit
  | .universalDuration => ∀ e ∈ es, e.dur? ≠ none
  | .blockWithoutExit =>
    (∃ e ∈ es, IsBlock t e) ∧
      ((∃ e ∈ es, IsBlock t e ∧ Conforming e) ∨ ∀ e ∈ es, IsBlock t e → e.exit? = none)
  | .blockWithDuration =>
    (∃ e ∈ es, IsBlock t e) ∧
      ((∃ e ∈ es, IsBlock t e ∧ Conforming e) ∨ ∀ e ∈ es, IsBlock t e → e.dur? ≠ none)

instance (t : Thresholds) (es : List Entry) (p : Property) : Decidable (p.Holds t es) :=
  match p with
  | .minEntries => inferInstanceAs (Decidable (_ ≤ _))
  | .exitZero => inferInstanceAs (Decidable (∃ e ∈ es, _))
  | .exitFailure => inferInstanceAs (Decidable (_ ∧ _))
  | .universalDuration => inferInstanceAs (Decidable (∀ e ∈ es, _))
  | .blockWithoutExit => inferInstanceAs (Decidable (_ ∧ _))
  | .blockWithDuration => inferInstanceAs (Decidable (_ ∧ _))

/-! ## Findings -/

/-- The property that a finding is about, and whether it holds. -/
def Finding.verdict (f : Finding) : Property × Bool := (f.property, f.passed)

theorem Finding.passed_of_verdict {f : Finding} {p : Property} {b : Bool}
    (h : f.verdict = (p, b)) : f.passed = b := congrArg Prod.snd h

theorem verdict_ite (p : Property) (c : Prop) [Decidable c] (found violated : String) :
    (if c then Finding.pass p found else Finding.fail p violated).verdict = (p, decide c) := by
  by_cases h : c
  · rw [if_pos h, decide_eq_true h]
    rfl
  · rw [if_neg h, decide_eq_false h]
    rfl

/-- The finding passes iff the property holds, if it is decided by an equivalent condition. -/
theorem verdict_of_iff {p : Property} {c d : Prop} [Decidable c] [Decidable d] (h : c ↔ d)
    (found violated : String) :
    (if c then Finding.pass p found else Finding.fail p violated).verdict = (p, decide d) := by
  rw [verdict_ite, decide_eq_decide.mpr h]

theorem mem_insertAscending {m n : Int} {ms : List Int} :
    m ∈ insertAscending n ms ↔ m = n ∨ m ∈ ms := by
  induction ms with
  | nil => rw [insertAscending, List.mem_singleton, List.mem_nil_iff, or_false]
  | cons k ks ih =>
    rw [insertAscending]
    split
    · rw [List.mem_cons]
    · split
      · rename_i hnk
        rw [List.mem_cons, hnk, ← or_assoc, or_self]
      · rw [List.mem_cons, List.mem_cons, ih, or_left_comm]

theorem mem_exitCodes {n : Int} {es : List Entry} :
    n ∈ exitCodes es ↔ ∃ e ∈ es, e.exit? = some n := by
  have hfold : ∀ ns codes : List Int,
      n ∈ ns.foldl (fun codes m => insertAscending m codes) codes ↔ n ∈ codes ∨ n ∈ ns := by
    intro ns
    induction ns with
    | nil => intro codes; rw [List.foldl_nil, List.mem_nil_iff, or_false]
    | cons m ns ih =>
      intro codes
      rw [List.foldl_cons, ih, mem_insertAscending, List.mem_cons, or_assoc, or_left_comm]
  rw [exitCodes, hfold, List.mem_nil_iff, false_or, List.mem_filterMap]

theorem mentions_iff {t : Thresholds} {e : Entry} :
    e.mentions t.blockStart t.blockEnd = true ↔ IsBlock t e := by
  rw [Log.Entry.mentions, Bool.and_eq_true, Text.contains_iff, Text.contains_iff, IsBlock]

theorem conforms_iff {e : Entry} : conforms e = true ↔ Conforming e := by
  rw [conforms, Bool.and_eq_true, Option.isNone_iff_eq_none, Option.isSome_iff_ne_none,
    Conforming]

theorem universalDuration_verdict (t : Thresholds) (es : List Entry) :
    (checkUniversalDuration es).verdict =
      (.universalDuration, decide (Property.universalDuration.Holds t es)) := by
  refine verdict_of_iff ?_ _ _
  rw [List.isEmpty_iff, List.filter_eq_nil_iff, Property.Holds]
  exact forall₂_congr fun e _ => by rw [Option.isNone_iff_eq_none]

/-! ## Blocks -/

section Blocks

variable (t : Thresholds) (es : List Entry)

/-- The entries that are blocks. -/
def blocks : List Entry := es.filter (·.mentions t.blockStart t.blockEnd)

variable {t es}

theorem mem_blocks {e : Entry} : e ∈ blocks t es ↔ e ∈ es ∧ IsBlock t e := by
  rw [blocks, List.mem_filter, mentions_iff]

theorem blocks_isEmpty : (blocks t es).isEmpty = true ↔ ¬∃ e ∈ es, IsBlock t e := by
  rw [List.isEmpty_iff, List.eq_nil_iff_forall_not_mem, not_exists]
  exact forall_congr' fun e => not_congr mem_blocks

/-- What holds of all blocks, by a scan of the blocks. -/
theorem forall_blocks {q : Entry → Prop} :
    (∀ e ∈ blocks t es, q e) ↔ ∀ e ∈ es, IsBlock t e → q e := by
  refine forall_congr' fun e => ?_
  rw [mem_blocks, and_imp]

theorem any_conforms :
    (blocks t es).any conforms = true ↔ ∃ e ∈ es, IsBlock t e ∧ Conforming e := by
  rw [List.any_eq_true]
  refine exists_congr fun e => ?_
  rw [mem_blocks, conforms_iff, and_assoc]

theorem withExit_isEmpty (line : Entry → Int → String) :
    ((blocks t es).filterMap fun e => e.exit?.map (line e)).isEmpty = true ↔
      ∀ e ∈ es, IsBlock t e → e.exit? = none := by
  rw [List.isEmpty_iff, List.filterMap_eq_nil_iff, ← forall_blocks]
  exact forall₂_congr fun e _ => Option.map_eq_none_iff

theorem withoutDuration_isEmpty (line : Entry → String) :
    (((blocks t es).filter (·.dur?.isNone)).map line).isEmpty = true ↔
      ∀ e ∈ es, IsBlock t e → e.dur? ≠ none := by
  rw [List.isEmpty_iff, List.map_eq_nil_iff, List.filter_eq_nil_iff, ← forall_blocks]
  exact forall₂_congr fun e _ => by rw [Option.isNone_iff_eq_none]

/-- Two findings about blocks decide their properties. -/
theorem blockEntries_verdicts (t : Thresholds) (es : List Entry) :
    (checkBlockEntries es t.blockStart t.blockEnd).1.verdict =
        (.blockWithoutExit, decide (Property.blockWithoutExit.Holds t es)) ∧
      (checkBlockEntries es t.blockStart t.blockEnd).2.verdict =
        (.blockWithDuration, decide (Property.blockWithDuration.Holds t es)) := by
  rw [checkBlockEntries]
  -- The pair was chosen as a whole; each finding is one choice on its own.
  change (if (blocks t es).isEmpty = true then _ else checkBlocks (blocks t es) _).1.verdict = _ ∧
    (if (blocks t es).isEmpty = true then _ else checkBlocks (blocks t es) _).2.verdict = _
  by_cases hb : (blocks t es).isEmpty = true
  · have hnone := blocks_isEmpty.mp hb
    rw [if_pos hb, decide_eq_false fun h => hnone h.1, decide_eq_false fun h => hnone h.1]
    exact ⟨rfl, rfl⟩
  · have hsome : ∃ e ∈ es, IsBlock t e := not_not.mp (mt blocks_isEmpty.mpr hb)
    rw [if_neg hb, checkBlocks]
    constructor
    · refine verdict_of_iff ?_ _ _
      rw [Bool.or_eq_true, any_conforms, withExit_isEmpty, Property.Holds]
      exact (and_iff_right hsome).symm
    · refine verdict_of_iff ?_ _ _
      rw [Bool.or_eq_true, any_conforms, withoutDuration_isEmpty, Property.Holds]
      exact (and_iff_right hsome).symm

/-- Both properties of blocks hold iff one block conforms: where none does, one block is blamed for
its exit code and another, or the same, for its missing duration. -/
theorem both_blocks_hold_iff :
    Property.blockWithoutExit.Holds t es ∧ Property.blockWithDuration.Holds t es ↔
      ∃ e ∈ es, IsBlock t e ∧ Conforming e := by
  constructor
  · rintro ⟨⟨⟨e, he, hb⟩, hexit⟩, -, hdur⟩
    rcases hexit with hc | hexit
    · exact hc
    rcases hdur with hc | hdur
    · exact hc
    exact ⟨e, he, hb, hexit e he hb, hdur e he hb⟩
  · rintro ⟨e, he, hb, hc⟩
    exact ⟨⟨⟨e, he, hb⟩, .inl ⟨e, he, hb, hc⟩⟩, ⟨e, he, hb⟩, .inl ⟨e, he, hb, hc⟩⟩

end Blocks

/-! ## The whole check -/

/-- The check decides every property once, in their order. -/
theorem check_verdicts (t : Thresholds) (es : List Entry) :
    (check es t).map Finding.verdict =
      Property.all.map fun p => (p, decide (p.Holds t es)) := by
  obtain ⟨hexit, hdur⟩ := blockEntries_verdicts t es
  have hmin : (checkMinEntries es t.minEntries).verdict =
      (.minEntries, decide (Property.minEntries.Holds t es)) := verdict_of_iff Iff.rfl _ _
  have hzero : (checkExitZero (exitCodes es)).verdict =
      (.exitZero, decide (Property.exitZero.Holds t es)) := verdict_of_iff mem_exitCodes _ _
  have hfailure : (checkExitFailure (exitCodes es) t.failureExit).verdict =
      (.exitFailure, decide (Property.exitFailure.Holds t es)) :=
    verdict_of_iff (and_congr_right fun _ => mem_exitCodes) _ _
  simp only [check, Property.all, List.map_cons, List.map_nil, hmin, hzero, hfailure,
    universalDuration_verdict t, hexit, hdur]

/-- A report passes iff every property that was checked holds. -/
theorem passed_iff_forall_holds (path : OsText) (n : Nat) (malformed : List Log.Malformed)
    (t : Thresholds) (es : List Entry) :
    (Report.mk path (.checked n (check es t) malformed)).passed = true ↔
      ∀ p ∈ Property.all, p.Holds t es := by
  have hall : ((check es t).map Finding.verdict).all (·.2) = true ↔
      ∀ p ∈ Property.all, p.Holds t es := by
    rw [check_verdicts, List.all_map, List.all_eq_true]
    exact forall₂_congr fun p _ => decide_eq_true_iff
  rw [← hall, List.all_map]
  rfl

/-- The six properties are decided once each and in their order; both properties of blocks pass iff
a block conforms; and a report of the check passes iff the other four hold and a block conforms. -/
theorem check_decides (t : Thresholds) (es : List Entry) :
    (check es t).map (fun f => (f.property, f.passed)) =
        Property.all.map (fun p => (p, decide (p.Holds t es))) ∧
      ((checkBlockEntries es t.blockStart t.blockEnd).1.passed = true ∧
          (checkBlockEntries es t.blockStart t.blockEnd).2.passed = true ↔
        ∃ e ∈ es, IsBlock t e ∧ Conforming e) ∧
      ∀ path n malformed,
        (Report.mk path (.checked n (check es t) malformed)).passed = true ↔
          Property.minEntries.Holds t es ∧ Property.exitZero.Holds t es ∧
            Property.exitFailure.Holds t es ∧ Property.universalDuration.Holds t es ∧
              ∃ e ∈ es, IsBlock t e ∧ Conforming e := by
  refine ⟨check_verdicts t es, ?_, fun path n malformed => ?_⟩
  · obtain ⟨hexit, hdur⟩ := blockEntries_verdicts t es
    rw [← both_blocks_hold_iff, Finding.passed_of_verdict hexit, Finding.passed_of_verdict hdur]
    exact and_congr decide_eq_true_iff decide_eq_true_iff
  · rw [passed_iff_forall_holds, ← both_blocks_hold_iff]
    simp only [Property.all, List.forall_mem_cons, List.not_mem_nil, false_imp_iff, implies_true,
      and_true]

end HistoryAudit.Audit
