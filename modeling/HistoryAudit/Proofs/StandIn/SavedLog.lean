/-
  HistoryAudit.Proofs.StandIn.SavedLog

  The log that the stand-in writes, read as any other log. Every record that it
  prints is a line of its own and is decoded as the annotation that it is, so the
  decoded lines are the annotations of the commands, one command behind the
  other. Those of one command share an `id` that no other command has, or there
  is only one: the groups of the log are the commands, and their entries tell
  what was recorded (`parse_logText`).
-/
import HistoryAudit.Proofs.Json.Written
import HistoryAudit.Proofs.Log.Contiguous
import HistoryAudit.Proofs.Log.Malformed
import HistoryAudit.Proofs.Log.Printed
import HistoryAudit.StandIn.Shell

namespace HistoryAudit.StandIn

open Json Log

/-! ## The records of a command -/

/-- A line that says no more of a command than is given. -/
def saying (id? cmd? : Option String) (exit? : Option Int) (dur? : Option Float) : Record :=
  ⟨id?, cmd?, exit?, dur?, none, none, none, []⟩

/-- The `id` of the lines of a command. -/
def idOf (mode : Mode) (index : Nat) : Option String :=
  if mode = .split then some s!"item{index}" else none

/-- What the first line of a command says. -/
def firstLine (mode : Mode) (index : Nat) (c : Command) : Record :=
  if mode = .split then saying (idOf mode index) (some c.text) none none
  else saying none (some c.text) c.exit? (some (Codec.floatOfInt c.duration))

/-- What the other lines of a command say. -/
def laterLines (mode : Mode) (index : Nat) (c : Command) : List Record :=
  if mode = .split then
    (c.exit?.map fun code => saying (idOf mode index) none (some code) none).toList ++
      [saying (idOf mode index) none none (some (Codec.floatOfInt c.duration))]
  else []

/-- A command whose numbers have room in a record. -/
structure Command.Fits (c : Command) : Prop where
  exit : ∀ code ∈ c.exit?, ∃ n : Nat, code = n ∧ n < Nat.pow 2 31
  duration : c.duration ≤ Number.maxSignificand

/-- An object of known members is decoded as what the members say. -/
theorem printsAs_saying {ms : List (String × Value)} {id? cmd? : Option String}
    {exit? : Option Int} {dur? : Option Float}
    (hms : ∀ m ∈ ms, m.1 ∈ Record.known.names ∧ m.2.Plain)
    (hk : Record.known.ofMembers .given ms = .ok (id?, cmd?, exit?, dur?, none, none, none, ())) :
    PrintsAs (.object ms) (saying id? cmd? exit? dur?) :=
  ⟨⟨ms, rfl⟩, Record.parse_write (fun m hm => (hms m hm).1) (fun m hm => (hms m hm).2) hk⟩

section Records

variable {mode : Mode} {c : Command}

/-- An exit code that has room is taken as it is. -/
theorem ofMember_exit {n : Nat} (hn : n < Nat.pow 2 31) (d : Record.known.Draft)
    (hd : d.2.2.1 = none) :
    Record.known.ofMember .given "exit" (.int n) d =
      .ok (d.1, d.2.1, some (some (n : Int)), d.2.2.2) := by
  have hrange : -(Nat.pow 2 31 : Int) ≤ n ∧ (n : Int) ≤ Nat.pow 2 31 - 1 := by omega
  have hvalue : Codec.int32.option.ofValue .given (.int n) = .ok (some (n : Int)) := by
    show some <$> (if _ then _ else _) = _
    rw [if_pos hrange]
    rfl
  simp only [Record.known, Fields.cons, Field.nullable, Field.withDefault] at d hd ⊢
  simp [hd, hvalue]

/-- The lines that are written for a command are decoded as its annotations. -/
theorem records_print (hmode : mode = .normal ∨ mode = .split) (h : c.Fits) (index : Nat) :
    List.Forall₂ PrintsAs (records mode index c)
      (firstLine mode index c :: laterLines mode index c) := by
  have hcmd : "cmd" ∈ Record.known.names ∧ (Value.string c.text).Plain :=
    ⟨by decide, .string c.text⟩
  have hid : "id" ∈ Record.known.names ∧ (Value.string s!"item{index}").Plain :=
    ⟨by decide, .string s!"item{index}"⟩
  have hdur : "dur" ∈ Record.known.names ∧ (Value.nat c.duration).Plain :=
    ⟨by decide, .nat h.duration⟩
  -- An exit code is a number of 31 bits, so it is read back as it was written.
  have hexit : ∀ n : Nat, n < Nat.pow 2 31 →
      "exit" ∈ Record.known.names ∧ (Value.int n).Plain := fun n hn =>
    ⟨by decide, .nat (Nat.le_trans (Nat.le_of_lt hn) (by decide))⟩
  -- One line holds everything, or each of up to three lines holds a part.
  obtain rfl | rfl := hmode
  · refine .cons ?_ .nil
    cases hcode : c.exit? with
    | none =>
      rw [firstLine, hcode]
      exact printsAs_saying
        (List.forall_mem_cons.mpr ⟨hcmd, List.forall_mem_singleton.mpr hdur⟩) rfl
    | some code =>
      obtain ⟨n, rfl, hn⟩ := h.exit code hcode
      rw [firstLine, hcode]
      refine printsAs_saying (List.forall_mem_cons.mpr ⟨hcmd,
        List.forall_mem_cons.mpr ⟨hdur, List.forall_mem_singleton.mpr (hexit n hn)⟩⟩) ?_
      have hfront : [("cmd", Value.string c.text), ("dur", .nat c.duration)].foldlM
          (fun d m => Record.known.ofMember .given m.1 m.2 d) Record.known.blank =
          .ok (none, some (some c.text), none, some (some (Codec.floatOfInt c.duration)), none,
            none, none, ()) := rfl
      exact Fields.ofMembers_concat (m := ("exit", .int n)) hfront (ofMember_exit hn _ rfl)
  · have hfirst : PrintsAs (.object [("cmd", .string c.text), ("id", .string s!"item{index}")])
        (firstLine .split index c) :=
      printsAs_saying (List.forall_mem_cons.mpr ⟨hcmd, List.forall_mem_singleton.mpr hid⟩) rfl
    have hlast : PrintsAs (.object [("dur", .nat c.duration), ("id", .string s!"item{index}")])
        (saying (idOf .split index) none none (some (Codec.floatOfInt c.duration))) :=
      printsAs_saying (List.forall_mem_cons.mpr ⟨hdur, List.forall_mem_singleton.mpr hid⟩) rfl
    rw [records, if_pos rfl, laterLines, if_pos rfl]
    cases hcode : c.exit? with
    | none => exact .cons hfirst (.cons hlast .nil)
    | some code =>
      obtain ⟨n, rfl, hn⟩ := h.exit code hcode
      refine .cons hfirst (.cons ?_ (.cons hlast .nil))
      refine printsAs_saying
        (List.forall_mem_cons.mpr ⟨hexit n hn, List.forall_mem_singleton.mpr hid⟩) ?_
      rw [Fields.ofMembers, List.foldlM_cons, ofMember_exit hn _ rfl]
      rfl

end Records

/-! ## The groups of the log -/

section Groups

variable {mode : Mode}

/-- The records of the commands, one command behind the other. -/
def allRecords (mode : Mode) (index : Nat) (commands : List Command) : List Value :=
  (commands.zipIdx index).flatMap fun (c, i) => records mode i c

/-- The groups that the commands make, whose first line is numbered `number`. -/
def commandGroups (mode : Mode) : (index number : Nat) → List Command → List Group
  | _, _, [] => []
  | index, number, c :: cs =>
    ⟨⟨number, firstLine mode index c⟩, linesFrom (number + 1) (laterLines mode index c)⟩ ::
      commandGroups mode (index + 1) (number + 1 + (laterLines mode index c).length) cs

theorem allRecords_print (hmode : mode = .normal ∨ mode = .split) {cs : List Command}
    (h : ∀ c ∈ cs, c.Fits) (index number : Nat) :
    ∃ rs, List.Forall₂ PrintsAs (allRecords mode index cs) rs ∧
      linesFrom number rs = (commandGroups mode index number cs).flatMap Group.lines := by
  induction cs generalizing index number with
  | nil => exact ⟨[], .nil, rfl⟩
  | cons c cs ih =>
    rw [List.forall_mem_cons] at h
    have hfirst := records_print hmode h.1 index
    obtain ⟨rs, hprint, hlines⟩ :=
      ih h.2 (index + 1) (number + 1 + (laterLines mode index c).length)
    refine ⟨firstLine mode index c :: laterLines mode index c ++ rs, ?_, ?_⟩
    · rw [allRecords, List.zipIdx_cons, List.flatMap_cons]
      exact List.rel_append hfirst hprint
    · rw [commandGroups, List.flatMap_cons, ← hlines, linesFrom_append, linesFrom_cons, Group.lines,
        List.length_cons, ← Nat.add_assoc, Nat.add_right_comm number]

/-! ### Commands are told apart -/

/-- No two commands have the same `id`. -/
theorem idOf_injective {i j : Nat} {id : String} (hi : idOf mode i = some id)
    (hj : idOf mode j = some id) : i = j := by
  rw [idOf] at hi hj
  split at hi
  · rw [if_pos ‹_›] at hj
    have htext : s!"item{i}" = s!"item{j}" := Option.some.inj (hi.trans hj.symm)
    have hchars : "item".toList ++ (toString i).toList = "item".toList ++ (toString j).toList := by
      rw [← String.toList_append, ← String.toList_append]
      exact congrArg String.toList htext
    have hdigits := List.append_cancel_left hchars
    rw [Nat.toString_eq_ofList_toDigits, Nat.toString_eq_ofList_toDigits, String.toList_ofList,
      String.toList_ofList] at hdigits
    rw [← Nat.ofDigitChars_ten_toDigits (n := i), hdigits, Nat.ofDigitChars_ten_toDigits]
  · cases hi

theorem id_firstLine (index : Nat) (c : Command) :
    (firstLine mode index c).id? = idOf mode index := by
  rw [firstLine, idOf]
  split <;> rfl

theorem id_of_mem_laterLines {index : Nat} {c : Command} {r : Record}
    (h : r ∈ laterLines mode index c) : r.id? = idOf mode index ∧ mode = .split := by
  rw [laterLines] at h
  split at h
  · refine ⟨?_, ‹_›⟩
    rw [List.mem_append, List.mem_singleton] at h
    obtain hexit | rfl := h
    · rw [Option.mem_toList, Option.map_eq_some_iff] at hexit
      obtain ⟨code, -, rfl⟩ := hexit
      rfl
    · rfl
  · cases h

/-- All lines of a command have its `id`. -/
theorem id_of_mem_commandGroups {index number : Nat} {cs : List Command} {g : Group} {d : Decoded}
    (hg : g ∈ commandGroups mode index number cs) (hd : d ∈ g.lines) :
    ∃ i, index ≤ i ∧ d.record.id? = idOf mode i := by
  induction cs generalizing index number with
  | nil => cases hg
  | cons c cs ih =>
    cases hg with
    | head =>
      refine ⟨index, Nat.le_refl index, ?_⟩
      cases hd with
      | head => exact id_firstLine index c
      | tail _ hlater => exact (id_of_mem_laterLines (record_of_mem_linesFrom hlater)).1
    | tail _ hg =>
      obtain ⟨i, hi, hid⟩ := ih hg
      exact ⟨i, Nat.le_of_succ_le hi, hid⟩

theorem contiguous_commandGroups (index number : Nat) (cs : List Command) :
    Contiguous (commandGroups mode index number cs) := by
  induction cs generalizing index number with
  | nil => exact ⟨nofun, .nil⟩
  | cons c cs ih =>
    obtain ⟨hown, hapart⟩ := ih (index + 1) (number + 1 + (laterLines mode index c).length)
    refine ⟨?_, List.pairwise_cons.mpr ⟨?_, hapart⟩⟩
    · -- The lines of one command share its `id`.
      rw [commandGroups, List.forall_mem_cons]
      refine ⟨fun d hd => ?_, hown⟩
      obtain ⟨hid, hsplit⟩ := id_of_mem_laterLines (record_of_mem_linesFrom hd)
      have hsome : idOf mode index = some s!"item{index}" := if_pos hsplit
      exact Decoded.joins_iff.mpr
        ⟨_, (id_firstLine index c).trans hsome, hid.trans hsome⟩
    · -- Later commands have larger numbers, and so other ids.
      intro g hg d hd hjoins
      obtain ⟨id, hfirst, hid⟩ := Decoded.joins_iff.mp hjoins
      obtain ⟨i, hi, hd⟩ := id_of_mem_commandGroups hg hd
      have heq := idOf_injective ((id_firstLine index c).symm.trans hfirst) (hd.symm.trans hid)
      omega

/-! ### What the groups tell -/

/-- What an entry tells of its command. -/
def told (e : Entry) : String × Option Int × Option Float := (e.cmd, e.exit?, e.dur?)

/-- What is recorded of a command, the duration as a double. -/
def recorded (c : Command) : String × Option Int × Option Float :=
  (c.text, c.exit?, some c.duration.toUInt64.toFloat)

theorem floatOfInt_natCast (n : Nat) : Codec.floatOfInt n = n.toUInt64.toFloat := by
  rw [Codec.floatOfInt, if_neg (by omega), Int.natAbs_natCast]

/-- A group has the entry of its command. -/
theorem entry_of_command (hmode : mode = .normal ∨ mode = .split) (index number : Nat)
    (c : Command) :
    (Group.entry? ⟨⟨number, firstLine mode index c⟩,
        linesFrom (number + 1) (laterLines mode index c)⟩).map told = some (recorded c) := by
  rw [recorded, ← floatOfInt_natCast]
  obtain ⟨text, exit?, duration⟩ := c
  obtain rfl | rfl := hmode <;> cases exit? <;> rfl

theorem entries_of_commandGroups (hmode : mode = .normal ∨ mode = .split) (index number : Nat)
    (cs : List Command) :
    ((commandGroups mode index number cs).filterMap Group.entry?).map told = cs.map recorded := by
  induction cs generalizing index number with
  | nil => rfl
  | cons c cs ih =>
    obtain ⟨e, he, htold⟩ := Option.map_eq_some_iff.mp (entry_of_command hmode index number c)
    rw [commandGroups, List.filterMap_cons_some he, List.map_cons, List.map_cons, htold, ih]

/-- No command is without a text. -/
theorem entry_ne_none (hmode : mode = .normal ∨ mode = .split) {index number : Nat}
    {cs : List Command} {g : Group} (hg : g ∈ commandGroups mode index number cs) :
    g.entry? ≠ none := by
  induction cs generalizing index number with
  | nil => cases hg
  | cons c cs ih =>
    cases hg with
    | head =>
      obtain ⟨e, he, -⟩ := Option.map_eq_some_iff.mp (entry_of_command hmode index number c)
      rw [he]
      exact Option.some_ne_none e
    | tail _ hg => exact ih hg

end Groups

/-! ## The whole log -/

theorem logText_eq (mode : Mode) (commands : List Command) :
    logText mode commands =
      String.ofList ((allRecords mode 0 commands).flatMap fun v => v.write ++ ['\n']) := by
  rw [logText, allRecords, List.flatMap_assoc]

/-- The log of some commands tells of these commands, one after the other, and of nothing else. -/
theorem parse_logText {mode : Mode} (hmode : mode = .normal ∨ mode = .split)
    {commands : List Command} (h : ∀ c ∈ commands, c.Fits) :
    (Log.parse (logText mode commands)).malformed = [] ∧
      (Log.parse (logText mode commands)).entries.map told = commands.map recorded := by
  obtain ⟨rs, hprint, hlines⟩ := allRecords_print hmode h 0 1
  have hnumbered := numberedLines_printed hprint
  rw [← logText_eq] at hnumbered
  -- The lines of a command are written together, so reading groups them by command.
  have hgroups : groups ((numberedLines (logText mode commands)).filterMap decoded?) =
      commandGroups mode 0 1 commands := by
    rw [hnumbered, printed_decoded hprint, hlines]
    exact groups_flatMap (contiguous_commandGroups 0 1 commands)
  constructor
  · rw [List.eq_nil_iff_forall_not_mem]
    intro m hm
    rw [mem_parse_malformed, decodedLines_eq, hgroups, hnumbered, printed_not_rejected hprint] at hm
    obtain hm | ⟨g, hg, hnone, -⟩ := hm
    · exact List.not_mem_nil hm
    · exact entry_ne_none hmode hg hnone
  · rw [Log.parse, entries_of_gathered (gathered_foldl _), hgroups]
    exact entries_of_commandGroups hmode 0 1 commands

end HistoryAudit.StandIn
