/-
  HistoryAudit.Proofs.Log.Refusal

  Why a line of a log cannot be decoded. `Refusal` lists the causes: those of the
  syntax, whose words are fixed, a value of the wrong type, an exit code out of
  range, and a member that is repeated. So no text of a log reaches a fault but in
  quotes, and the words of a fault are in one line (`parse_unbroken`).
-/
import HistoryAudit.Proofs.Json.Faults
import HistoryAudit.Proofs.Text.Unbroken

namespace HistoryAudit

open Text (unbroken_append unbroken_literal)

/-! ## Words in one line -/

namespace Json

/-- The wording of the cause is in one line. -/
def Cause.Unbroken (cause : Cause) : Prop := Text.Unbroken cause.message

theorem Cause.unbroken_of_isFixed {cause : Cause} (h : cause.isFixed = true) :
    cause.Unbroken := by
  unfold Cause.Unbroken
  cases cause <;> first | cases h; done | exact unbroken_literal rfl

theorem Found.unbroken_message (found : Found) : Text.Unbroken found.message := by
  -- Only a text is quoted as it came, and quoting escapes its line breaks.
  cases found with
  | bool b =>
    have hword : Text.Unbroken (toString b) := by
      cases b with
      | false =>
        show Text.Unbroken "false"
        exact unbroken_literal rfl
      | true =>
        show Text.Unbroken "true"
        exact unbroken_literal rfl
    show Text.Unbroken ("boolean `" ++ toString b ++ "`")
    rw [unbroken_append, unbroken_append]
    exact ⟨⟨unbroken_literal rfl, hword⟩, unbroken_literal rfl⟩
  | number n =>
    cases n with
    | int n =>
      show Text.Unbroken ("integer `" ++ toString n ++ "`")
      rw [unbroken_append, unbroken_append]
      exact ⟨⟨unbroken_literal rfl, Text.unbroken_int n⟩, unbroken_literal rfl⟩
    | float f =>
      show Text.Unbroken ("floating point `" ++ Decimal.text f ++ "`")
      rw [unbroken_append, unbroken_append]
      exact ⟨⟨unbroken_literal rfl, Decimal.unbroken_text f⟩, unbroken_literal rfl⟩
  | string s =>
    show Text.Unbroken ("string " ++ Text.quoted s)
    exact unbroken_append.mpr ⟨unbroken_literal rfl, Text.unbroken_quoted s⟩
  | null => exact unbroken_literal rfl
  | sequence => exact unbroken_literal rfl
  | map => exact unbroken_literal rfl

section Causes

variable {expected : String}

theorem Cause.unbroken_invalidType (found : Found) (h : Text.Unbroken expected) :
    (Cause.invalidType found expected).Unbroken := by
  show Text.Unbroken ("invalid type: " ++ found.message ++ ", expected " ++ expected)
  rw [unbroken_append, unbroken_append, unbroken_append]
  exact ⟨⟨⟨unbroken_literal rfl, found.unbroken_message⟩, unbroken_literal rfl⟩, h⟩

theorem Cause.unbroken_invalidValue (found : Found) (h : Text.Unbroken expected) :
    (Cause.invalidValue found expected).Unbroken := by
  show Text.Unbroken ("invalid value: " ++ found.message ++ ", expected " ++ expected)
  rw [unbroken_append, unbroken_append, unbroken_append]
  exact ⟨⟨⟨unbroken_literal rfl, found.unbroken_message⟩, unbroken_literal rfl⟩, h⟩

theorem Cause.unbroken_duplicateField {name : String} (h : Text.Unbroken name) :
    (Cause.duplicateField name).Unbroken := by
  show Text.Unbroken ("duplicate field `" ++ name ++ "`")
  rw [unbroken_append, unbroken_append]
  exact ⟨⟨unbroken_literal rfl, h⟩, unbroken_literal rfl⟩

end Causes

/-- The place of a fault adds two numbers to the wording of its cause. -/
theorem Fault.unbroken_message {fault : Fault} (h : fault.cause.Unbroken) :
    Text.Unbroken fault.message := by
  unfold Fault.message
  split
  · rename_i p _
    show Text.Unbroken (fault.cause.message ++ " at line " ++ toString p.line ++ " column " ++
      toString p.column)
    have hline : Text.Unbroken (fault.cause.message ++ " at line " ++ toString p.line) := by
      rw [unbroken_append, unbroken_append]
      exact ⟨⟨h, unbroken_literal rfl⟩, Text.unbroken_nat _⟩
    rw [unbroken_append, unbroken_append]
    exact ⟨⟨hline, unbroken_literal rfl⟩, Text.unbroken_nat _⟩
  · exact h

end Json

/-! ## Causes -/

namespace Log.Record

open Json Reader Fields

/-- The types that a line and its known members are held to. -/
def kinds : List String := ["struct RawRecord", "a string", "i32", "f64", "a sequence"]

/-- Why a line cannot be decoded. -/
inductive Refusal : Cause → Prop
  /-- It is no JSON, or there is too much of it. -/
  | fixed {cause : Cause} (h : cause.isFixed = true) : Refusal cause
  | wrongType {found : Found} {kind : String} (hword : found.InWord) (h : kind ∈ kinds) :
    Refusal (.invalidType found kind)
  | outOfRange {n : Int} (hword : n.natAbs < 2 ^ 64) :
    Refusal (.invalidValue (.number (.int n)) "i32")
  | repeated {name : String} (h : name ∈ known.names) : Refusal (.duplicateField name)

theorem known_failsWith : known.FailsWith Refusal := by
  have hfixed : ∀ cause : Cause, cause.isFixed = true → Refusal cause := fun _ => .fixed
  have htype : ∀ kind ∈ kinds, ∀ found : Found, found.InWord → Refusal (.invalidType found kind) :=
    fun kind hkind found hword => .wrongType hword hkind
  have htext := Codec.text_failsWith hfixed (htype _ (by decide))
  have htext? := Codec.option_failsWith hfixed htext
  have hint := Codec.option_failsWith hfixed
    (Codec.int32_failsWith hfixed (htype _ (by decide)) fun _ => .outOfRange)
  have hfloat := Codec.option_failsWith hfixed (Codec.float_failsWith hfixed (htype _ (by decide)))
  have htexts := Codec.option_failsWith hfixed
    (Codec.list_failsWith hfixed (htype _ (by decide)) htext)
  -- Each member may be repeated, and none has to be there.
  unfold known
  refine failsWith_cons hfixed (.repeated (by decide)) nofun htext? ?_
  refine failsWith_cons hfixed (.repeated (by decide)) nofun htext? ?_
  refine failsWith_cons hfixed (.repeated (by decide)) nofun hint ?_
  refine failsWith_cons hfixed (.repeated (by decide)) nofun hfloat ?_
  refine failsWith_cons hfixed (.repeated (by decide)) nofun htexts ?_
  refine failsWith_cons hfixed (.repeated (by decide)) nofun htext? ?_
  exact failsWith_cons hfixed (.repeated (by decide)) nofun htext? failsWith_done

theorem readMember_failsWith (levels : Nat) (name : String)
    (d : known.Draft × List (String × Value)) :
    Reader.FailsWith Refusal (readMember levels name d) := by
  refine failsWith_ite (fun hname => ?_) fun _ => ?_
  · exact (known_failsWith.member levels name d.1 hname).bind fun d' => failsWith_pure _
  · exact (failsFixed_colon.mono fun _ => .fixed).bind fun _ =>
      ((failsFixed_value levels).mono fun _ => .fixed).bind fun v => failsWith_pure _

theorem readObject_failsWith (levels : Nat) : Reader.FailsWith Refusal (readObject levels) := by
  refine (Reader.FailsWith.members (fun _ => .fixed) (failsFixed_string.mono fun _ => .fixed)
    (readMember_failsWith levels) _).bind fun d => ?_
  cases hk : known.complete d.1 with
  | ok k => exact failsWith_pure _
  | error cause => exact failsWith_fail (known_failsWith.complete _ _ hk)

theorem read_failsWith (levels : Nat) : Reader.FailsWith Refusal (read levels) := by
  refine failsWith_peekToken.bind fun token => ?_
  split
  · exact failsWith_failAtNext (.fixed rfl)
  · exact (readObject_failsWith _).object (fun _ => .fixed) _
  · exact failsWith_mismatch (fun _ => .fixed) (fun found hword => .wrongType hword (by decide)) _

/-- A line that cannot be decoded is refused for one of the causes, at a place that lies in it. -/
theorem refusal_of_parse {line : String} {fault : Fault} (h : parse line = .error fault) :
    Refusal fault.cause ∧ ∀ p ∈ fault.place?, p.sum ≤ 1 + Escape.byteCount line.toList := by
  have hwhole : Reader.FailsWith Refusal (do let r ← read maxDepth; finish; pure r) :=
    (read_failsWith maxDepth).bind fun r =>
      (failsFixed_finish.mono fun _ => .fixed).bind fun _ => failsWith_pure r
  -- At the start, all of the text is still to come.
  have hfits := hwhole (Cursor.ofText line)
  unfold parse run at h
  split at h
  · cases h
  · rename_i f c' heq
    cases h
    rw [heq] at hfits
    exact ⟨hfits.1, hfits.2.1⟩

/-- The types and the names of the members are told in one line each. -/
theorem Refusal.unbroken {cause : Cause} (h : Refusal cause) : cause.Unbroken := by
  have hkinds : ∀ kind ∈ kinds, Text.Unbroken kind := by decide
  have hnames : ∀ name ∈ known.names, Text.Unbroken name := by decide
  cases h with
  | fixed h => exact Cause.unbroken_of_isFixed h
  | wrongType hword h => exact Cause.unbroken_invalidType _ (hkinds _ h)
  | outOfRange hword => exact Cause.unbroken_invalidValue _ (hkinds _ (by decide))
  | repeated h => exact Cause.unbroken_duplicateField (hnames _ h)

/-- Why a line cannot be decoded is told in one line, whatever the line holds. -/
theorem parse_unbroken {line : String} {fault : Fault} (h : parse line = .error fault) :
    Text.Unbroken fault.message := Fault.unbroken_message (refusal_of_parse h).1.unbroken

end Log.Record

end HistoryAudit
