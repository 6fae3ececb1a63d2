/-
  HistoryAudit.Proofs.Log.ReasonLength

  How long the reason of a malformed line can be. Of the line itself at most eighty
  characters are quoted, and most causes have short words, whatever the line holds.
  Two things are told in full: a text in the place of a value of another type, and
  the `id` of a command without a text (`ToldWhole`). So no bound holds for all logs
  (`reasons_unbounded`), but one holds of all the rest of a reason
  (`reason_bounded_but_for_whole`).
-/
import HistoryAudit.Proofs.Decimal.Length
import HistoryAudit.Proofs.Json.Written
import HistoryAudit.Proofs.Log.Accounting
import HistoryAudit.Proofs.Log.Printed
import HistoryAudit.Proofs.Log.Refusal

namespace HistoryAudit

/-! ## Quoted texts and numbers -/

namespace Text

theorem Quoted.length_escape_le (c : Char) : (escape c).length ≤ 12 := by
  have hdigits : (hexDigits c.toNat).length ≤ 8 :=
    (Nat.length_toDigits_le_iff (by decide) (by decide)).mpr c.val.toNat_lt
  rw [escape]
  generalize CodeRange.holds unseen c.toNat = isUnseen
  split_ifs
  all_goals first
    | decide
    | exact Nat.le_add_left 1 11
    | simp only [List.length_append, List.length_cons, List.length_nil]
      omega

theorem Quoted.length_encode_le (cs : List Char) : (encode cs).length ≤ 12 * cs.length := by
  induction cs with
  | nil => exact Nat.le_refl 0
  | cons c cs ih =>
    have hfirst := length_escape_le c
    rw [encode] at ih ⊢
    rw [List.flatMap_cons, List.length_append, List.length_cons]
    omega

/-- The quotes, and at most twelve characters for each one between them. -/
theorem length_quoted_le (s : String) : (quoted s).length ≤ 12 * s.toList.length + 2 := by
  have hencode := Quoted.length_encode_le s.toList
  rw [quoted, String.length_ofList, List.length_append, List.length_cons, List.length_cons,
    List.length_nil]
  omega

theorem length_nat_le {n k : Nat} (hk : 0 < k) (h : n < 10 ^ k) : (toString n).length ≤ k := by
  rw [Nat.toString_eq_ofList_toDigits, String.length_ofList]
  exact (Nat.length_toDigits_le_iff (by decide) hk).mpr h

/-- A greater number has no fewer digits. -/
theorem length_nat_mono {m n : Nat} (h : m ≤ n) : (toString m).length ≤ (toString n).length := by
  have hlength : (toString n).length = (Nat.toDigits 10 n).length := by
    rw [Nat.toString_eq_ofList_toDigits, String.length_ofList]
  rw [hlength]
  exact length_nat_le (Decimal.length_toDigits_pos n)
    (Nat.lt_of_le_of_lt h (Decimal.lt_pow_length_toDigits n))

theorem length_int_le {n : Int} (h : n.natAbs < 2 ^ 64) : (toString n).length ≤ 21 := by
  have hdigits : (toString n.natAbs).length ≤ 20 :=
    length_nat_le (by decide) (Nat.lt_trans h (by decide))
  cases n with
  | ofNat m => exact Nat.le_succ_of_le hdigits
  | negSucc m =>
    show ("-" ++ toString (m + 1)).length ≤ 21
    rw [String.length_append, Nat.add_comm]
    exact Nat.succ_le_succ hdigits

end Text

/-! ## Causes -/

namespace Json

/-- The text that the wording of a cause tells in full. -/
def Cause.whole? : Cause → Option String
  | .invalidType (.string s) _ => some (Text.quoted s)
  | _ => none

theorem Cause.length_of_isFixed {cause : Cause} (h : cause.isFixed = true) :
    cause.message.length ≤ 100 := by
  cases cause <;> first | cases h; done | decide

theorem Found.length_message_le {found : Found} (hword : found.InWord)
    (hshort : ∀ s, found ≠ .string s) : found.message.length ≤ 60 := by
  cases found with
  | bool b => cases b <;> decide
  | number n =>
    cases n with
    | int n =>
      -- An integer of 64 bits has at most twenty digits and a sign.
      have hdigits := Text.length_int_le hword
      show ("integer `" ++ toString n ++ "`").length ≤ 60
      rw [String.length_append, String.length_append]
      exact Nat.le_trans (Nat.add_le_add_right (Nat.add_le_add_left hdigits _) _) (by decide)
    | float f =>
      have hdigits := Decimal.length_text_le f
      show ("floating point `" ++ Decimal.text f ++ "`").length ≤ 60
      rw [String.length_append, String.length_append]
      exact Nat.le_trans (Nat.add_le_add_right (Nat.add_le_add_left hdigits _) _) (by decide)
  | string s => exact absurd rfl (hshort s)
  | null | sequence | map => decide

/-- What was found stands between fixed words and the type that was expected. -/
theorem length_wrong_le (lead : String) (found : Found) (kind : String) (hlead : lead.length ≤ 20)
    (hkind : kind.length ≤ 20) :
    (lead ++ found.message ++ ", expected " ++ kind).length ≤ found.message.length + 60 := by
  have hwords : ", expected ".length = 11 := by decide
  rw [String.length_append, String.length_append, String.length_append]
  omega

end Json

namespace Log

open Json

namespace Record

/-- The words of a cause are short, but for the text that they tell in full. -/
theorem Refusal.length_message_le {cause : Cause} (h : Refusal cause) :
    cause.message.length ≤ 120 + cause.whole?.elim 0 String.length := by
  have hkinds : ∀ kind ∈ kinds, kind.length ≤ 20 := by decide
  have hnames : ∀ name ∈ known.names, name.length ≤ 20 := by decide
  cases h with
  | fixed h => exact Nat.le_trans (Cause.length_of_isFixed h) (by omega)
  | @wrongType found kind hword h =>
    have hall := length_wrong_le "invalid type: " found kind (by decide) (hkinds kind h)
    show ("invalid type: " ++ found.message ++ ", expected " ++ kind).length ≤ _
    -- Only a text is told in full. The words of all else are short.
    by_cases hstring : ∃ s, found = .string s
    · obtain ⟨s, rfl⟩ := hstring
      have hmessage : ("string " ++ Text.quoted s).length = 7 + (Text.quoted s).length :=
        String.length_append _ _
      have hwhole : (Cause.invalidType (.string s) kind).whole? = some (Text.quoted s) := rfl
      change _ ≤ ("string " ++ Text.quoted s).length + 60 at hall
      rw [hwhole, Option.elim_some]
      omega
    · have hshort := Found.length_message_le hword fun s hs => hstring ⟨s, hs⟩
      omega
  | @outOfRange n hword =>
    have hall := length_wrong_le "invalid value: " (.number (.int n)) "i32" (by decide) (by decide)
    have hshort : (Found.number (.int n)).message.length ≤ 60 :=
      Found.length_message_le hword nofun
    show ("invalid value: " ++ (Found.number (.int n)).message ++ ", expected " ++ "i32").length ≤ _
    omega
  | @repeated name h =>
    have hname := hnames name h
    have hwords : "duplicate field `".length = 17 ∧ "`".length = 1 := ⟨by decide, by decide⟩
    show ("duplicate field `" ++ name ++ "`").length ≤ _
    rw [String.length_append, String.length_append]
    omega

end Record

/-! ## Places -/

theorem sublist_of_isLine {text trimmed : String} {number : Nat} (h : IsLine text number trimmed) :
    trimmed.toList.Sublist text.toList := by
  obtain ⟨i, line, -, hget, -, rfl⟩ := h
  exact (Text.trim_sublist line).trans (Text.sublist_of_mem_lines (List.mem_of_getElem? hget))

/-! ## Reasons -/

/-- What the reason of a malformed line of `text` tells in full. -/
inductive ToldWhole (text : String) (m : Malformed) : String → Prop
  /-- A text in the place of a value of another type, in quotes. -/
  | value {number : Nat} {line whole : String} {fault : Fault} (hline : IsLine text number line)
    (hfault : Record.parse line = .error fault) (htold : m = undecodable number line fault)
    (hwhole : fault.cause.whole? = some whole) : ToldWhole text m whole
  /-- The `id` of a command without a text. -/
  | id {g : Group} {id : String} (hg : g ∈ groups (decodedLines text)) (hlacking : g.entry? = none)
    (htold : m = ⟨.malformedRecord, g.first.number, g.pending.incomplete⟩)
    (hid : g.first.record.id? = some id) : ToldWhole text m id

/-- A bound of the rest of a reason. It only grows with the digits of the place in the text. -/
def reasonBound (text : String) : Nat :=
  1200 + 2 * (toString (1 + Escape.byteCount text.toList)).length

/-- The places in a text that a memory can hold have few digits. -/
theorem reasonBound_le {text : String} (h : Escape.byteCount text.toList < 2 ^ 64) :
    reasonBound text ≤ 1240 := by
  have hdigits : (toString (1 + Escape.byteCount text.toList)).length ≤ 20 :=
    Text.length_nat_le (by decide) (Nat.lt_of_le_of_lt (Nat.add_le_add_left (Nat.le_of_lt h) 1)
      (by decide))
  rw [reasonBound]
  omega

theorem length_quoteLine_le (line : String) : (quoteLine line).length ≤ 965 := by
  have hlimit : quoteLimit = 80 := rfl
  rw [quoteLine]
  split
  · rename_i hshort
    have hquoted := Text.length_quoted_le line
    omega
  · have hquoted := Text.length_quoted_le (String.ofList (line.toList.take quoteLimit))
    have htake := List.length_take_le quoteLimit line.toList
    have hdots : "...".length = 3 := by decide
    rw [String.toList_ofList] at hquoted
    rw [String.length_append]
    omega

/-- What a fault adds to the words of its cause. -/
theorem length_fault_message_le {fault : Fault} {n : Nat} (h : ∀ p ∈ fault.place?, p.sum ≤ n) :
    fault.message.length ≤ fault.cause.message.length + 17 + 2 * (toString n).length := by
  have hwords : " at line ".length = 9 ∧ " column ".length = 8 := ⟨by decide, by decide⟩
  unfold Fault.message
  split
  · rename_i p hplace
    -- Neither the line nor the column exceeds what was read.
    have hsum : p.line + p.column ≤ n := h p hplace
    have hline : (toString p.line).length ≤ (toString n).length := Text.length_nat_mono (by omega)
    have hcolumn : (toString p.column).length ≤ (toString n).length :=
      Text.length_nat_mono (by omega)
    show (fault.cause.message ++ " at line " ++ toString p.line ++ " column " ++
      toString p.column).length ≤ _
    simp only [String.length_append]
    omega
  · omega

section Reasons

variable {text line : String} {number : Nat} {fault : Fault} {g : Group}

/-- What stands in the reason of a line that cannot be decoded, next to what it tells in full. -/
theorem length_undecodable_le (hline : IsLine text number line)
    (hfault : Record.parse line = .error fault) :
    (undecodable number line fault).reason.length ≤
      fault.cause.whole?.elim 0 String.length + reasonBound text := by
  obtain ⟨hrefusal, hplace⟩ := Record.refusal_of_parse hfault
  have hbytes := Position.byteCount_le_of_sublist (sublist_of_isLine hline)
  have hmessage := length_fault_message_le fun p hp =>
    Nat.le_trans (hplace p hp) (Nat.add_le_add_left hbytes 1)
  have hcause := hrefusal.length_message_le
  have hquote := length_quoteLine_le line
  have hcolon : ": ".length = 2 := by decide
  show (fault.message ++ ": " ++ quoteLine line).length ≤ _
  rw [String.length_append, String.length_append, reasonBound]
  omega

/-- A text that the cause tells in full stands in the reason. -/
theorem whole_infix_undecodable {whole : String} (h : fault.cause.whole? = some whole) :
    whole.toList <:+: (undecodable number line fault).reason.toList := by
  -- It stands inside the cause, the fault begins with the cause, and the reason with the fault.
  have hcause : whole.toList <:+: fault.cause.message.toList := by
    obtain ⟨cause, place?⟩ := fault
    cases cause with
    | invalidType found expected =>
      cases found with
      | string s =>
        obtain rfl := Option.some.inj h
        show _ <:+: ("invalid type: " ++ ("string " ++ Text.quoted s) ++ ", expected " ++
          expected).toList
        refine ⟨"invalid type: string ".toList, (", expected " ++ expected).toList, ?_⟩
        simp only [String.toList_append, List.append_assoc]
        rfl
      | _ => cases h
    | _ => cases h
  have hfault : fault.cause.message.toList <+: fault.message.toList := by
    unfold Fault.message
    split
    · rename_i p _
      show _ <+: (fault.cause.message ++ " at line " ++ toString p.line ++ " column " ++
        toString p.column).toList
      simp only [String.toList_append, List.append_assoc]
      exact List.prefix_append _ _
    · exact List.prefix_rfl
  have hreason : fault.message.toList <+: (undecodable number line fault).reason.toList := by
    show _ <+: (fault.message ++ ": " ++ quoteLine line).toList
    simp only [String.toList_append, List.append_assoc]
    exact List.prefix_append _ _
  exact hcause.trans (hfault.trans hreason).isInfix

theorem length_incomplete_le (g : Group) :
    g.pending.incomplete.length ≤ g.first.record.id?.elim 0 String.length + 40 := by
  have hwords : "history item ".length = 13 ∧ " has no \"cmd\" field".length = 19 :=
    ⟨by decide, by decide⟩
  rw [Group.incomplete_pending]
  cases g.first.record.id? with
  | none => decide
  | some id =>
    show ("history item " ++ id ++ " has no \"cmd\" field").length ≤ id.length + 40
    rw [String.length_append, String.length_append]
    omega

/-- The `id` of a group stands in the note that it has no command. -/
theorem id_infix_incomplete {id : String} (h : g.first.record.id? = some id) :
    id.toList <:+: g.pending.incomplete.toList := by
  rw [Group.incomplete_pending, h]
  refine ⟨"history item ".toList, " has no \"cmd\" field".toList, ?_⟩
  simp only [String.toList_append]

/-- A reason is bounded but for a text that it tells in full, which may be as long as the log
has it. The bound is one for all logs that a machine of 64 bits can hold. -/
theorem reason_bounded_but_for_whole {m : Malformed} (hm : m ∈ (parse text).malformed) :
    (∀ whole, ToldWhole text m whole → whole.toList <:+: m.reason.toList) ∧
      (m.reason.length ≤ reasonBound text ∨
        ∃ whole, ToldWhole text m whole ∧ m.reason.length ≤ whole.length + reasonBound text) ∧
      (Escape.byteCount text.toList < 2 ^ 64 → reasonBound text ≤ 1240) := by
  refine ⟨fun whole hwhole => ?_, ?_, reasonBound_le⟩
  · cases hwhole with
    | value hline hfault htold hwhole =>
      subst htold
      exact whole_infix_undecodable hwhole
    | id hg hlacking htold hid =>
      subst htold
      exact id_infix_incomplete hid
  · -- A rejected line quotes its fault, and a group without a command its `id`.
    rcases mem_parse_malformed.mp hm with hrejected | ⟨g, hg, hlacking, rfl⟩
    · obtain ⟨number, line, fault, hline, hfault, rfl⟩ := mem_rejected.mp hrejected
      have hlength := length_undecodable_le hline hfault
      cases hwhole : fault.cause.whole? with
      | none =>
        rw [hwhole, Option.elim_none, Nat.zero_add] at hlength
        exact .inl hlength
      | some whole =>
        rw [hwhole] at hlength
        exact .inr ⟨whole, .value hline hfault rfl hwhole, hlength⟩
    · have hlength := length_incomplete_le g
      have hroom : 40 ≤ reasonBound text := by
        rw [reasonBound]
        omega
      cases hid : g.first.record.id? with
      | none =>
        rw [hid, Option.elim_none, Nat.zero_add] at hlength
        exact .inl (Nat.le_trans hlength hroom)
      | some id =>
        rw [hid] at hlength
        exact .inr ⟨id, .id hg hlacking rfl hid,
          Nat.le_trans hlength (Nat.add_le_add_left hroom _)⟩

end Reasons

/-- A text in the place of an exit code. -/
theorem wrong_exit_told_whole :
    let text := "\x7b\"exit\":\"a\"\x7d"
    let m := undecodable 1 text ⟨.invalidType (.string "a") "i32", some ⟨1, 11⟩⟩
    m ∈ (parse text).malformed ∧ (Text.quoted "a").toList <:+: m.reason.toList ∧
      (m.reason.length ≤ 1240 ∨
        ∃ whole, ToldWhole text m whole ∧ m.reason.length ≤ whole.length + 1240) := by
  intro text m
  have hline : IsLine text 1 text := mem_numberedLines.mp (by decide +kernel)
  have hfault : Record.parse "\x7b\"exit\":\"a\"\x7d" =
      .error ⟨.invalidType (.string "a") "i32", some ⟨1, 11⟩⟩ := by rfl
  have hm : m ∈ (parse text).malformed :=
    mem_parse_malformed.mpr (.inl (mem_rejected.mpr ⟨1, text, _, hline, hfault, rfl⟩))
  obtain ⟨hwhole, hlength, hbound⟩ := reason_bounded_but_for_whole hm
  have hroom : reasonBound text ≤ 1240 := hbound (by decide +kernel)
  refine ⟨hm, hwhole _ (.value hline hfault rfl rfl), ?_⟩
  rcases hlength with hshort | ⟨whole, htold, hlong⟩
  · exact .inl (Nat.le_trans hshort hroom)
  · exact .inr ⟨whole, htold, Nat.le_trans hlong (Nat.add_le_add_left hroom _)⟩

/-- No number bounds the reasons of all logs: the `id` of a command without a text may be as long as
one likes. -/
theorem reasons_unbounded :
    ¬∃ bound, ∀ text, ∀ m ∈ (parse text).malformed, m.reason.length ≤ bound := by
  rintro ⟨bound, hbound⟩
  -- A line with an `id` as long as the bound, and nothing else.
  let id := String.ofList (List.replicate bound 'x')
  let line := Value.object [("id", .string id)]
  let r := Record.ofKnown [] (some id, none, none, none, none, none, none, ())
  have hparse : Record.parse line.text = .ok r := by
    refine Record.parse_write ?_ ?_ rfl
    · rw [List.forall_mem_singleton]
      exact List.mem_cons_self
    · rw [List.forall_mem_singleton]
      exact .string id
  have hprinted : List.Forall₂ PrintsAs [line] [r] := .cons ⟨⟨_, rfl⟩, hparse⟩ .nil
  let text := String.ofList ([line].flatMap fun v => v.write ++ ['\n'])
  have hdecoded : decodedLines text = [⟨1, r⟩] := by
    rw [decodedLines_eq, numberedLines_printed hprinted, printed_decoded hprinted]
    rfl
  let g : Group := ⟨⟨1, r⟩, []⟩
  have hg : g ∈ groups (decodedLines text) := by
    rw [hdecoded]
    exact List.mem_singleton_self g
  have hreason := hbound text _ (mem_parse_malformed.mpr (.inr ⟨g, hg, rfl, rfl⟩))
  have hid : ("history item " ++ id ++ " has no \"cmd\" field").length ≤ bound := by
    rw [Group.incomplete_pending] at hreason
    exact hreason
  have hlength : id.length = bound := by
    rw [String.length_ofList, List.length_replicate]
  have hwords : "history item ".length = 13 := by decide
  rw [String.length_append, String.length_append] at hid
  omega

end Log

end HistoryAudit
