/-
  HistoryAudit.Proofs.StandIn.Recall

  What the stand-in has written whenever it saves. Line by line its memory is
  that of the commands since the history was last cleared, and what it writes is
  read as these commands (`parse_logText`), whether there is one record for each
  of them or several lines with the same `id`.
-/
import HistoryAudit.Proofs.Decimal.Whole
import HistoryAudit.Proofs.Files.Writing
import HistoryAudit.Proofs.StandIn.SavedLog
import HistoryAudit.Proofs.Text.Utf8
import Mathlib.Data.List.DropRight

namespace HistoryAudit.StandIn

open Json Log

/-! ## Line by line -/

/-- The shell behind some lines, the first one numbered `number`, if it still reads. -/
def after? (template : String) (durations : Nat → Nat) :
    (number : Nat) → List String → Shell → Option Shell
  | _, [], s => some s
  | number, line :: lines, s =>
    match s.runLine (Text.trim line) (durations number) with
    | (_, some _) => none
    | (s, none) =>
      after? template durations (number + 1) lines (s.print (promptText template (number + 1)))

section Course

variable {template : String} {durations : Nat → Nat}

/-- A run goes on from the shell behind its first lines, or else it has ended with them. -/
theorem runLines_append (number : Nat) (lines : List String)
    (rest : List (Except Text.Utf8.Break String)) (s : Shell) :
    runLines template durations number (lines.map .ok ++ rest) s =
      match after? template durations number lines s with
      | some s' => runLines template durations (number + lines.length) rest s'
      | none => runLines template durations number (lines.map .ok) s := by
  induction lines generalizing number s with
  | nil => rfl
  | cons line lines ih =>
    rw [List.map_cons, List.cons_append, after?, runLines, runLines, List.length_cons,
      ← Nat.add_assoc, Nat.add_right_comm]
    cases s.runLine (Text.trim line) (durations number) with
    | mk s₁ status? =>
      cases status? with
      | some status => rfl
      | none => exact ih (number + 1) _

theorem after?_append (number : Nat) (lines more : List String) (s : Shell) :
    after? template durations number (lines ++ more) s =
      (after? template durations number lines s).bind
        (after? template durations (number + lines.length) more) := by
  induction lines generalizing number s with
  | nil => rfl
  | cons line lines ih =>
    rw [List.cons_append, after?, after?, List.length_cons, ← Nat.add_assoc, Nat.add_right_comm]
    cases s.runLine (Text.trim line) (durations number) with
    | mk s₁ status? =>
      cases status? with
      | some status => rfl
      | none => exact ih (number + 1) _

end Course

/-! ## The memory of the shell -/

/-- Does the history outlast a trimmed line? -/
def keeps (line : String × Nat) : Bool := Request.of .normal line.1 ≠ .clear

/-- The command that a trimmed line with its number runs, if it runs one. -/
def commandOf (durations : Nat → Nat) (line : String × Nat) : Option Command :=
  match Request.of .normal line.1 with
  | .run _ exit? => some ⟨line.1, exit?, durations line.2⟩
  | _ => none

/-- The commands that some lines run, as far as no later line asks to forget them. -/
def recalled (durations : Nat → Nat) (lines : List String) : List Command :=
  (((lines.map Text.trim).zipIdx 1).rtakeWhile keeps).filterMap (commandOf durations)

/-- Only one mode makes a difference to what a line asks for. -/
theorem of_eq_normal {mode : Mode} (hmode : mode ≠ .blockExit) (line : String) :
    Request.of mode line = Request.of .normal line := by
  have hnormal : Mode.normal ≠ .blockExit := by decide
  rw [Request.of, Request.of, if_neg hmode, if_neg hnormal]

/-- A block has no exit code, and every other command has one of at most three digits. -/
theorem exit_cases {line output : String} {exit? : Option Int}
    (h : Request.of .normal line = .run output exit?) :
    (exit? = none ∧ isBlock line = true) ∨
      ∃ n : Nat, exit? = some (n : Int) ∧ n ≤ 127 ∧ isBlock line = false := by
  have hnormal : Mode.normal ≠ .blockExit := by decide
  rw [Request.of, if_neg hnormal] at h
  split_ifs at h with _ _ _ htrue hfalse hblock _ _
  all_goals rw [Request.run.injEq] at h
  all_goals obtain ⟨-, rfl⟩ := h
  · exact .inr ⟨0, rfl, by decide, by rw [htrue]; decide⟩
  · exact .inr ⟨1, rfl, by decide, by rw [hfalse]; decide⟩
  · exact .inl ⟨rfl, hblock⟩
  · exact .inr ⟨0, rfl, by decide, Bool.eq_false_iff.mpr hblock⟩
  · exact .inr ⟨127, rfl, by decide, Bool.eq_false_iff.mpr hblock⟩

/-- One more line forgets everything, or adds its command if it runs one. -/
theorem recalled_concat (durations : Nat → Nat) (lines : List String) (line : String) :
    recalled durations (lines ++ [line]) =
      match Request.of .normal (Text.trim line) with
      | .clear => []
      | .run _ exit? =>
        recalled durations lines ++ [⟨Text.trim line, exit?, durations (1 + lines.length)⟩]
      | _ => recalled durations lines := by
  have hlast : ((lines ++ [line]).map Text.trim).zipIdx 1 =
      (lines.map Text.trim).zipIdx 1 ++ [(Text.trim line, 1 + lines.length)] := by
    rw [List.map_append, List.zipIdx_append, List.length_map]
    rfl
  rw [recalled, hlast, List.rtakeWhile_concat]
  cases hline : Request.of .normal (Text.trim line) with
  | clear => simp [keeps, hline]
  | run output exit? => simp [keeps, commandOf, hline, recalled]
  | nothing => simp [keeps, commandOf, hline, recalled]
  | save => simp [keeps, commandOf, hline, recalled]
  | leave status => simp [keeps, commandOf, hline, recalled]

/-! ## One line -/

section Line

variable {s s' : Shell} {path : OsText}

/-- A shell that saves writes the log of what it remembers. -/
theorem save_cases {saved : Bool} (h : s.save = (s', saved)) :
    (s' = s ∧ (s.log? = none ∨ s.mode = .noSave)) ∨
      ∃ path files, s.log? = some path ∧ s' = { s with files } ∧
        (saved = true →
          files.read path = .ok (Text.Utf8.encode (logText s.mode s.commands))) := by
  rw [Shell.save] at h
  cases hlog : s.log? with
  | none =>
    rw [hlog] at h
    cases h
    exact .inl ⟨rfl, .inl rfl⟩
  | some path =>
    rw [hlog] at h
    simp only at h
    -- A shell that saves nothing leaves its files alone.
    by_cases hmode : s.mode = .noSave
    · rw [if_pos hmode] at h
      cases h
      exact .inl ⟨rfl, .inr hmode⟩
    · rw [if_neg hmode] at h
      refine .inr ⟨path, ?_⟩
      split at h
      · rename_i files hplace
        cases h
        exact ⟨files, rfl, rfl, fun _ => Files.Tree.read_of_place hplace⟩
      · rename_i files _ _
        cases h
        exact ⟨files, rfl, rfl, nofun⟩

/-- What a line does to the memory of the shell; its mode and the place of its log stay. -/
theorem runLine_commands (hmode : s.mode ≠ .blockExit) {line : String} {duration : Nat}
    (h : s.runLine line duration = (s', none)) :
    s'.mode = s.mode ∧ s'.log? = s.log? ∧ s'.commands =
      match Request.of .normal line with
      | .clear => []
      | .run _ exit? => s.commands ++ [⟨line, exit?, duration⟩]
      | _ => s.commands := by
  rw [Shell.runLine, of_eq_normal hmode] at h
  -- By what the line asks; only a command and a clearing touch the memory.
  cases hline : Request.of .normal line with
  | nothing =>
    rw [hline] at h
    cases h
    exact ⟨rfl, rfl, rfl⟩
  | clear =>
    rw [hline] at h
    cases h
    cases hlog : s.log? <;> simp [Shell.clear, hlog]
  | save =>
    rw [hline] at h
    simp only at h
    split at h
    · rename_i hsave
      cases h
      obtain ⟨rfl, -⟩ | ⟨path, files, -, rfl, -⟩ := save_cases hsave
      · exact ⟨rfl, rfl, rfl⟩
      · exact ⟨rfl, rfl, rfl⟩
    · cases h
  | run output exit? =>
    rw [hline] at h
    cases h
    exact ⟨rfl, rfl, rfl⟩
  | leave status =>
    rw [hline] at h
    cases h

/-- A line that asks to save, and does not end the shell, leaves the log behind. -/
theorem runLine_save (hlog : s.log? = some path) (hmode : s.mode ≠ .noSave) {line : String}
    {duration : Nat} (hline : Request.of s.mode line = .save)
    (h : s.runLine line duration = (s', none)) :
    s'.files.read path = .ok (Text.Utf8.encode (logText s.mode s.commands)) := by
  rw [Shell.runLine, hline] at h
  simp only at h
  split at h
  · rename_i hsave
    cases h
    -- It has a place for its log and a mode that saves, so the log was written.
    obtain ⟨-, hnone | hnever⟩ | ⟨path', files, hpath, rfl, hread⟩ := save_cases hsave
    · rw [hlog] at hnone
      cases hnone
    · exact absurd hnever hmode
    · rw [hlog] at hpath
      cases hpath
      exact hread rfl
  · cases h

end Line

/-! ## All lines -/

section Lines

variable {template : String} {durations : Nat → Nat} {s₀ s : Shell}

theorem after?_singleton {number : Nat} {line : String}
    (h : after? template durations number [line] s₀ = some s) :
    ∃ s₁, s₀.runLine (Text.trim line) (durations number) = (s₁, none) ∧
      s = s₁.print (promptText template (number + 1)) := by
  rw [after?] at h
  split at h
  · cases h
  · rename_i s₁ hrun
    cases h
    exact ⟨s₁, hrun, rfl⟩

/-- At every line the shell remembers the commands that were run since the last clearing. -/
theorem commands_of_after? (hmode : s₀.mode ≠ .blockExit) (hempty : s₀.commands = [])
    {lines : List String} (h : after? template durations 1 lines s₀ = some s) :
    s.mode = s₀.mode ∧ s.log? = s₀.log? ∧ s.commands = recalled durations lines := by
  -- The last line decides what is left of the memory, so the induction goes from the right.
  induction lines using List.reverseRecOn generalizing s with
  | nil =>
    cases h
    exact ⟨rfl, rfl, hempty⟩
  | append_singleton lines line ih =>
    rw [after?_append, Option.bind_eq_some_iff] at h
    obtain ⟨s₁, hbefore, hlast⟩ := h
    obtain ⟨s₂, hrun, rfl⟩ := after?_singleton hlast
    obtain ⟨hmode₁, hlog₁, hcommands₁⟩ := ih hbefore
    obtain ⟨hmode₂, hlog₂, hcommands₂⟩ := runLine_commands (hmode₁ ▸ hmode) hrun
    refine ⟨hmode₂.trans hmode₁, hlog₂.trans hlog₁, ?_⟩
    rw [recalled_concat, ← hcommands₁]
    exact hcommands₂

/-- What stands in the file after a save is the log of these commands, in the mode of the shell. -/
theorem read_of_save (hblock : s₀.mode ≠ .blockExit) (hsaves : s₀.mode ≠ .noSave)
    (hempty : s₀.commands = []) {path : OsText} (hlog : s₀.log? = some path)
    {lines : List String} {line : String} (hline : Request.of .normal (Text.trim line) = .save)
    (h : after? template durations 1 (lines ++ [line]) s₀ = some s) :
    s.files.read path =
      .ok (Text.Utf8.encode (logText s₀.mode (recalled durations lines))) := by
  rw [after?_append, Option.bind_eq_some_iff] at h
  obtain ⟨s₁, hbefore, hlast⟩ := h
  obtain ⟨s₂, hrun, rfl⟩ := after?_singleton hlast
  obtain ⟨hmode, hlog₁, hcommands⟩ := commands_of_after? hblock hempty hbefore
  have hasks : Request.of s₁.mode (Text.trim line) = .save :=
    (of_eq_normal (hmode ▸ hblock) _).trans hline
  have hread := runLine_save (hlog₁.trans hlog) (hmode ▸ hsaves) hasks hrun
  rw [hmode, hcommands] at hread
  exact hread

theorem run_of_mem_recalled {lines : List String} {c : Command}
    (hc : c ∈ recalled durations lines) :
    ∃ output number, Request.of .normal c.text = .run output c.exit? ∧
      c.duration = durations number := by
  obtain ⟨⟨line, number⟩, -, hline⟩ := List.mem_filterMap.mp hc
  rw [commandOf] at hline
  split at hline
  · rename_i output exit? hrun
    cases hline
    exact ⟨output, number, hrun, rfl⟩
  · cases hline

/-- The numbers of a command that is recalled have room in a record. -/
theorem fits_of_mem_recalled (hdurations : ∀ n, durations n < 2 ^ 53) {lines : List String}
    {c : Command} (hc : c ∈ recalled durations lines) : c.Fits := by
  obtain ⟨output, number, hrun, hduration⟩ := run_of_mem_recalled hc
  have hless := hdurations number
  refine ⟨?_, ?_⟩
  · intro code hcode
    obtain ⟨hnone, -⟩ | ⟨n, hsome, hn, -⟩ := exit_cases hrun
    · rw [hnone] at hcode
      cases hcode
    · rw [hsome] at hcode
      cases hcode
      exact ⟨n, rfl, Nat.lt_of_le_of_lt hn (by decide)⟩
  · rw [hduration]
    exact Nat.le_trans (Nat.le_of_lt hless) (by decide)

/-- Whenever the stand-in has saved, the log is one in which nothing is malformed and whose entries
are the commands since the last clearing, each with its text, exit code and duration; the list is
the same for one record a command and for several lines. A block has no exit code, and the double
of a duration gives the duration back. Whatever lines follow, the run goes on from there. -/
theorem saved_log_recalls (hdurations : ∀ n, durations n < 2 ^ 53)
    (hmode : s₀.mode = .normal ∨ s₀.mode = .split) (hempty : s₀.commands = []) {path : OsText}
    (hlog : s₀.log? = some path) {lines : List String} {line : String}
    (hline : Request.of .normal (Text.trim line) = .save)
    (h : after? template durations 1 (lines ++ [line]) s₀ = some s) :
    (∀ rest, runLines template durations 1 ((lines ++ [line]).map .ok ++ rest) s₀ =
      runLines template durations (lines.length + 2) rest s) ∧
    ∃ bytes text, s.files.read path = .ok bytes ∧ Text.Utf8.decode bytes = .ok text ∧
      (Log.parse text).malformed = [] ∧
      (Log.parse text).entries.map told = (recalled durations lines).map recorded ∧
      ∀ c ∈ recalled durations lines, (c.exit? = none ↔ isBlock c.text = true) ∧
        c.duration.toUInt64.toFloat.toUInt64.toNat = c.duration := by
  have hblock : s₀.mode ≠ .blockExit := by
    obtain hm | hm := hmode <;> rw [hm] <;> decide
  have hsaves : s₀.mode ≠ .noSave := by
    obtain hm | hm := hmode <;> rw [hm] <;> decide
  -- The save writes what the shell remembers behind these lines.
  have hread := read_of_save hblock hsaves hempty hlog hline h
  obtain ⟨hmalformed, hentries⟩ :=
    parse_logText hmode fun c hc => fits_of_mem_recalled hdurations hc
  refine ⟨fun rest => ?_, _, _, hread, Text.Utf8.decode_encode _, hmalformed, hentries,
    fun c hc => ?_⟩
  · -- The lines that follow are numbered on.
    have hnumber : 1 + (lines ++ [line]).length = lines.length + 2 := by
      rw [List.length_append, List.length_singleton]
      omega
    rw [runLines_append, h, hnumber]
  obtain ⟨output, number, hasks, hduration⟩ := run_of_mem_recalled hc
  constructor
  · obtain ⟨hnone, hisBlock⟩ | ⟨n, hsome, -, hisBlock⟩ := exit_cases hasks
    · simp [hnone, hisBlock]
    · simp [hsome, hisBlock]
  · exact Decimal.toUInt64_toFloat (hduration ▸ hdurations number)

/-- A command from before the clearing is gone, quotes are kept and blanks at the ends are not. The
run ends behind the save, so it leaves this log. -/
theorem saved_log_recalls_after_clear :
    let s₀ : Shell := { mode := .split, log? := some "d/log", files := .empty }
    let lines := ["false", " history clear", "echo \"a\" ", "begin; true; end"]
    ∃ s bytes text, after? "" (· % 8) 1 (lines ++ ["history save"]) s₀ = some s ∧
      runLines "" (· % 8) 1 ((lines ++ ["history save"]).map .ok) s₀ = (s, 0) ∧
      s.files.read "d/log" = .ok bytes ∧ Text.Utf8.decode bytes = .ok text ∧
      (Log.parse text).malformed = [] ∧
      (Log.parse text).entries.map told =
        [("echo \"a\"", some 0, some (3 : Nat).toUInt64.toFloat),
          ("begin; true; end", none, some (4 : Nat).toUInt64.toFloat)] := by
  intro s₀ lines
  have hruns : (after? "" (· % 8) 1 (lines ++ ["history save"]) s₀).isSome = true := by
    decide +kernel
  obtain ⟨s, hs⟩ := Option.isSome_iff_exists.mp hruns
  have hdurations : ∀ n, n % 8 < 2 ^ 53 := fun n => by omega
  obtain ⟨hrest, bytes, text, hread, hdecode, hmalformed, hentries, -⟩ :=
    saved_log_recalls hdurations (.inr rfl) rfl rfl rfl hs
  have hrun := hrest []
  rw [List.append_nil] at hrun
  exact ⟨s, bytes, text, hs, hrun, hread, hdecode, hmalformed, hentries⟩

end Lines

end HistoryAudit.StandIn
