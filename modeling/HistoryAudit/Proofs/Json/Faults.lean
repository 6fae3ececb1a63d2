/-
  HistoryAudit.Proofs.Json.Faults

  What the faults of readers have in common. A property of causes that holds of
  every fault of the parts of a reader holds of those of the whole (`FailsWith`).
  Most readers only fail with causes whose words are fixed; what else there is
  comes from the types of values and the names of members. A reader goes forward
  only, so every fault stands inside the text: its line and its column are no more
  than the bytes of that.
-/
import HistoryAudit.Log.Record
import HistoryAudit.Proofs.Json.Integers

namespace HistoryAudit.Json

/-- Is the wording the same for all texts? -/
def Cause.isFixed : Cause → Bool
  | .invalidType .. | .invalidValue .. | .invalidLength .. | .missingField _ | .duplicateField _
  | .unknownVariant .. | .uuid _ => false
  | _ => true

/-! ## Places -/

namespace Position

/-- A number that no place exceeds in its line or in its column. -/
def sum (p : Position) : Nat := p.line + p.column

theorem sum_next (p : Position) (c : Char) : (p.next c).sum ≤ p.sum + c.utf8Size := by
  have hsize := c.utf8Size_pos
  unfold next
  split
  · show p.line + 1 + 0 ≤ p.line + p.column + c.utf8Size
    omega
  · exact Nat.le_of_eq (Nat.add_assoc ..).symm

theorem byteCount_cons (c : Char) (cs : List Char) :
    Escape.byteCount (c :: cs) = c.utf8Size + Escape.byteCount cs := by
  have hfrom : ∀ (cs : List Char) (n : Nat),
      cs.foldl (fun n c => n + c.utf8Size) n = n + Escape.byteCount cs := by
    intro cs
    induction cs with
    | nil => exact fun n => rfl
    | cons c cs ih =>
      intro n
      rw [Escape.byteCount, List.foldl_cons, List.foldl_cons, ih, ih, Nat.zero_add, Nat.add_assoc]
  rw [Escape.byteCount, List.foldl_cons, hfrom, Nat.zero_add]

theorem byteCount_le_of_sublist {cs ds : List Char} (h : cs.Sublist ds) :
    Escape.byteCount cs ≤ Escape.byteCount ds := by
  induction h with
  | slnil => exact Nat.le_refl _
  | cons c _ ih =>
    rw [byteCount_cons]
    omega
  | cons_cons c _ ih =>
    rw [byteCount_cons, byteCount_cons]
    omega

theorem sum_afterAll (p : Position) (cs : List Char) :
    (p.afterAll cs).sum ≤ p.sum + Escape.byteCount cs := by
  induction cs generalizing p with
  | nil => exact Nat.le_refl _
  | cons c cs ih =>
    have hnext := p.sum_next c
    have hrest := ih (p.next c)
    rw [byteCount_cons]
    show ((p.next c).afterAll cs).sum ≤ _
    omega

theorem sum_peeked (p : Position) (cs : List Char) :
    (p.peeked cs).sum ≤ p.sum + Escape.byteCount cs := by
  cases cs with
  | nil => exact Nat.le_refl _
  | cons c cs =>
    have hsize := c.utf8Size_pos
    rw [byteCount_cons, peeked]
    split
    · show p.line + 1 + 0 ≤ p.line + p.column + (c.utf8Size + Escape.byteCount cs)
      omega
    · show p.line + (p.column + 1) ≤ p.line + p.column + (c.utf8Size + Escape.byteCount cs)
      omega

theorem sum_behind (p : Position) (n : Nat) (cs : List Char) :
    (p.behind n cs).sum ≤ p.sum + Escape.byteCount cs := by
  induction cs generalizing p n with
  | nil => exact Nat.le_refl _
  | cons c cs ih =>
    have hnext := p.sum_next c
    have hrest := ih (p.next c) (n - c.utf8Size)
    rw [byteCount_cons, behind]
    split
    · omega
    · split
      · show p.line + (p.column + n) ≤ p.line + p.column + (c.utf8Size + Escape.byteCount cs)
        omega
      · omega

end Position

namespace Cursor

/-- What no place that the cursor can still come to exceeds. -/
def extent (c : Cursor) : Nat := c.place.sum + Escape.byteCount c.rest

theorem extent_next (c : Cursor) : c.next.extent ≤ c.extent := by
  obtain ⟨rest, place⟩ := c
  cases rest with
  | nil => exact Nat.le_refl _
  | cons ch cs =>
    have hnext := place.sum_next ch
    show (place.next ch).sum + Escape.byteCount cs ≤ place.sum + Escape.byteCount (ch :: cs)
    rw [Position.byteCount_cons]
    omega

theorem extent_advance (c : Cursor) (n : Nat) : (c.advance n).extent ≤ c.extent := by
  obtain ⟨rest, place⟩ := c
  have hcount : ∀ (cs ds : List Char),
      Escape.byteCount (cs ++ ds) = Escape.byteCount cs + Escape.byteCount ds := by
    intro cs ds
    induction cs with
    | nil => exact (Nat.zero_add _).symm
    | cons c cs ih => rw [List.cons_append, Position.byteCount_cons, Position.byteCount_cons, ih,
        Nat.add_assoc]
  -- What is passed counts in the place, and what is left in the rest.
  have hplace := place.sum_afterAll (rest.take n)
  have hsplit := hcount (rest.take n) (rest.drop n)
  rw [List.take_append_drop] at hsplit
  show (place.afterAll (rest.take n)).sum + Escape.byteCount (rest.drop n) ≤
    place.sum + Escape.byteCount rest
  omega

end Cursor

namespace Reader

/-! ## Parts and the whole -/

/-- What a reader that starts at `c` comes to: it goes forward, and if it fails, then with a cause
that has the property, and at a place that it can have come to. -/
def Fits (P : Cause → Prop) (c : Cursor) : EStateM.Result Fault Cursor α → Prop
  | .ok _ c' => c'.extent ≤ c.extent
  | .error f c' => P f.cause ∧ (∀ p ∈ f.place?, p.sum ≤ c.extent) ∧ c'.extent ≤ c.extent

/-- Every fault of the reader, wherever it stands, has a cause with the property. -/
def FailsWith (P : Cause → Prop) (r : Reader α) : Prop := ∀ c, Fits P c (r c)

section Parts

variable {P Q : Cause → Prop} {cause : Cause} {r : Reader α}

theorem Fits.mono {c c' : Cursor} {result : EStateM.Result Fault Cursor α} (h : Fits P c' result)
    (hle : c'.extent ≤ c.extent) (hPQ : ∀ cause, P cause → Q cause) : Fits Q c result := by
  cases result with
  | ok a c'' => exact Nat.le_trans h hle
  | error f c'' =>
    obtain ⟨hcause, hplace, hextent⟩ := h
    exact ⟨hPQ _ hcause, fun p hp => Nat.le_trans (hplace p hp) hle, Nat.le_trans hextent hle⟩

/-- The same further behind in the text. -/
theorem Fits.behind {c c' : Cursor} {result : EStateM.Result Fault Cursor α} (h : Fits P c' result)
    (hle : c'.extent ≤ c.extent) : Fits P c result := h.mono hle fun _ => id

theorem FailsWith.mono (h : FailsWith P r) (hPQ : ∀ cause, P cause → Q cause) : FailsWith Q r :=
  fun c => (h c).mono (Nat.le_refl _) hPQ

theorem failsWith_pure (a : α) : FailsWith P (pure a : Reader α) := fun _ => Nat.le_refl _

theorem failsWith_peek : FailsWith P peek := fun _ => Nat.le_refl _

theorem failsWith_skip : FailsWith P skip := fun c => c.extent_next

theorem failsWith_skipSpace : FailsWith P skipSpace := fun c => c.extent_advance _

theorem failsWith_digits : FailsWith P digits := fun c => c.extent_advance _

/-- The rest need only be looked at for what the first part can give. -/
theorem FailsWith.bind_gives {given : α → Prop} {k : α → Reader β} (hr : FailsWith P r)
    (hgives : Gives given r) (hk : ∀ a, given a → FailsWith P (k a)) : FailsWith P (r >>= k) := by
  intro c
  show Fits P c (EStateM.bind r k c)
  have hfits := hr c
  unfold EStateM.bind
  cases hc : r c with
  | ok a c' =>
    rw [hc] at hfits
    exact (hk a (hgives c a c' hc) c').behind hfits
  | error f c' =>
    rw [hc] at hfits
    exact hfits

theorem FailsWith.bind {k : α → Reader β} (hr : FailsWith P r) (hk : ∀ a, FailsWith P (k a)) :
    FailsWith P (r >>= k) := hr.bind_gives (fun _ _ _ _ => trivial) fun a _ => hk a

theorem failsWith_peekToken : FailsWith P peekToken :=
  failsWith_skipSpace.bind fun _ => failsWith_peek

theorem failsWith_failHere (h : P cause) : FailsWith P (failHere cause : Reader α) := by
  refine fun c => ⟨h, ?_, Nat.le_refl _⟩
  rintro p ⟨⟩
  exact Nat.le_add_right _ _

theorem failsWith_failAtNext (h : P cause) : FailsWith P (failAtNext cause : Reader α) := by
  refine fun c => ⟨h, ?_, Nat.le_refl _⟩
  rintro p ⟨⟩
  exact c.place.sum_peeked c.rest

theorem failsWith_fail (h : P cause) : FailsWith P (fail cause : Reader α) :=
  fun _ => ⟨h, nofun, Nat.le_refl _⟩

/-- The token decides how to go on. -/
theorem failsWith_token {k : Option Char → Reader β} (hnone : FailsWith P (k none))
    (hsome : ∀ c, FailsWith P (k (some c))) : FailsWith P (peekToken >>= k) := by
  refine failsWith_peekToken.bind fun token => ?_
  cases token with
  | none => exact hnone
  | some c => exact hsome c

/-- The same of the next character. -/
theorem failsWith_next {k : Option Char → Reader β} (hnone : FailsWith P (k none))
    (hsome : ∀ c, FailsWith P (k (some c))) : FailsWith P (peek >>= k) := by
  refine failsWith_peek.bind fun next => ?_
  cases next with
  | none => exact hnone
  | some c => exact hsome c

theorem failsWith_ite {p : Prop} [Decidable p] {r' : Reader α} (ht : p → FailsWith P r)
    (hf : ¬p → FailsWith P r') : FailsWith P (if p then r else r') := by
  split
  · rename_i h
    exact ht h
  · rename_i h
    exact hf h

/-- A fault that gets its place late gets one that was come to. -/
theorem Fits.located {c c' c'' : Cursor} {f : Fault}
    (h : Fits P c (.error f c' : EStateM.Result Fault Cursor α)) (hle : c''.extent ≤ c.extent) :
    Fits P c (.error (f.located c''.place) c'' : EStateM.Result Fault Cursor β) := by
  obtain ⟨hcause, hplace, -⟩ := h
  refine ⟨hcause, ?_, hle⟩
  rintro p ⟨⟩
  cases hp : f.place? with
  | some p => exact hplace p hp
  | none => exact Nat.le_trans (Nat.le_add_right _ _) hle

/-- A container tells the fault of its inside, or else that of its end. -/
theorem FailsWith.enclosed {close : Reader Unit} (hr : FailsWith P r) (hclose : FailsWith P close) :
    FailsWith P (enclosed r close) := by
  intro c
  have hinside := hr c
  unfold Reader.enclosed
  -- The end is read in any case, but its fault counts only if the inside had none.
  cases hc : r c with
  | ok a c' =>
    rw [hc] at hinside
    have hend := (hclose c').behind hinside
    simp only
    cases hclosed : close c' with
    | ok _ c'' =>
      rw [hclosed] at hend
      exact hend
    | error f c'' =>
      rw [hclosed] at hend
      exact hend.located hend.2.2
  | error f c' =>
    rw [hc] at hinside
    have hend := (hclose c').behind hinside.2.2
    simp only
    cases hclosed : close c' with
    | ok _ c'' =>
      rw [hclosed] at hend
      exact hinside.located hend
    | error f' c'' =>
      rw [hclosed] at hend
      exact hinside.located hend.2.2

theorem FailsWith.opened (hr : FailsWith P r) (hlimit : P .recursionLimit) (levels : Nat) :
    FailsWith P (opened levels r) :=
  failsWith_ite (fun _ => failsWith_failAtNext hlimit) fun _ => failsWith_skip.bind fun _ => hr

theorem failsWith_itemsFrom {item : Reader α} (hitem : FailsWith P item)
    (hhas : ∀ first, FailsWith P (hasItem first)) (hend : P .eofList) (fuel : Nat) (first : Bool) :
    FailsWith P (itemsFrom item fuel first) := by
  induction fuel generalizing first with
  | zero => exact failsWith_failHere hend
  | succ fuel ih =>
    refine (hhas first).bind fun further => failsWith_ite (fun _ => ?_) fun _ => failsWith_pure _
    exact hitem.bind fun a => (ih false).bind fun as => failsWith_pure _

theorem failsWith_membersFrom {name : Reader String} {member : String → σ → Reader σ}
    (hname : FailsWith P name) (hmember : ∀ key s, FailsWith P (member key s))
    (hhas : ∀ first, FailsWith P (hasMember first)) (hend : P .eofObject) (fuel : Nat)
    (first : Bool) (s : σ) : FailsWith P (membersFrom name member fuel first s) := by
  induction fuel generalizing first s with
  | zero => exact failsWith_failHere hend
  | succ fuel ih =>
    refine (hhas first).bind fun further => failsWith_ite (fun _ => ?_) fun _ => failsWith_pure _
    exact failsWith_skip.bind fun _ => hname.bind fun key =>
      (hmember key s).bind fun s' => ih false s'

end Parts

/-! ## Faults with fixed words -/

/-- Every fault of the reader is told in fixed words. -/
abbrev FailsFixed (r : Reader α) : Prop := FailsWith (fun cause => cause.isFixed = true) r

/-- A fault with fixed words. -/
theorem failsFixed_failHere {cause : Cause} (h : cause.isFixed = true) :
    FailsFixed (failHere cause : Reader α) := failsWith_failHere h

/-- The same of a fault at the next character. -/
theorem failsFixed_failAtNext {cause : Cause} (h : cause.isFixed = true) :
    FailsFixed (failAtNext cause : Reader α) := failsWith_failAtNext h

theorem failsFixed_word (letters : List Char) : FailsFixed (word letters) := by
  induction letters with
  | nil => exact failsWith_pure ()
  | cons expected more ih =>
    intro c
    unfold word
    split
    · exact failsFixed_failHere rfl c
    · split
      · exact (ih c.next).behind c.extent_next
      · exact failsFixed_failAtNext rfl c

theorem failsFixed_hasItem (first : Bool) : FailsFixed (hasItem first) := by
  refine failsWith_token (failsFixed_failAtNext rfl) fun c => ?_
  refine failsWith_ite (fun _ => failsWith_pure _) fun _ => failsWith_ite
    (fun _ => failsWith_pure _) fun _ => failsWith_ite (fun _ => ?_) fun _ =>
      (failsFixed_failAtNext rfl)
  refine failsWith_skip.bind fun _ => failsWith_token (failsFixed_failAtNext rfl) fun d => ?_
  exact failsWith_ite (fun _ => failsFixed_failAtNext rfl) fun _ => failsWith_pure _

theorem failsFixed_hasMember (first : Bool) : FailsFixed (hasMember first) := by
  refine failsWith_token (failsFixed_failAtNext rfl) fun c => ?_
  refine failsWith_ite (fun _ => failsWith_pure _) fun _ => failsWith_ite
    (fun _ => failsWith_ite (fun _ => failsWith_pure _) fun _ => failsFixed_failAtNext rfl)
    fun _ => failsWith_ite (fun _ => ?_) fun _ => failsFixed_failAtNext rfl
  refine failsWith_skip.bind fun _ => failsWith_token (failsFixed_failAtNext rfl) fun d => ?_
  exact failsWith_ite (fun _ => failsWith_pure _) fun _ => failsWith_ite
    (fun _ => failsFixed_failAtNext rfl) fun _ => failsFixed_failAtNext rfl

theorem failsFixed_closeList : FailsFixed closeList := by
  refine failsWith_token (failsFixed_failAtNext rfl) fun c => ?_
  refine failsWith_ite (fun _ => failsWith_skip) fun _ => failsWith_ite (fun _ => ?_) fun _ =>
    (failsFixed_failAtNext rfl)
  refine failsWith_skip.bind fun _ => failsWith_peekToken.bind fun token => ?_
  split
  · exact failsFixed_failAtNext rfl
  · exact failsFixed_failAtNext rfl

theorem failsFixed_closeObject : FailsFixed closeObject := by
  refine failsWith_token (failsFixed_failAtNext rfl) fun c => ?_
  exact failsWith_ite (fun _ => failsWith_skip) fun _ => failsWith_ite
    (fun _ => failsFixed_failAtNext rfl) fun _ => failsFixed_failAtNext rfl

theorem failsFixed_colon : FailsFixed colon := by
  refine failsWith_token (failsFixed_failAtNext rfl) fun c => ?_
  exact failsWith_ite (fun _ => failsWith_skip) fun _ => failsFixed_failAtNext rfl

theorem failsFixed_finish : FailsFixed finish :=
  failsWith_token (failsWith_pure _) fun _ => failsFixed_failAtNext rfl

section Containers

variable {P : Cause → Prop} (hfixed : ∀ cause, cause.isFixed = true → P cause)
include hfixed

theorem FailsWith.items {item : Reader α} (h : FailsWith P item) : FailsWith P (items item) :=
  fun c => failsWith_itemsFrom h (fun first => (failsFixed_hasItem first).mono hfixed)
    (hfixed _ rfl) _ _ c

theorem FailsWith.members {name : Reader String} {member : String → σ → Reader σ}
    (hname : FailsWith P name) (hmember : ∀ key s, FailsWith P (member key s)) (s : σ) :
    FailsWith P (members name member s) :=
  fun c => failsWith_membersFrom hname hmember
    (fun first => (failsFixed_hasMember first).mono hfixed) (hfixed _ rfl) _ _ _ c

/-- An object whose brace is next. -/
theorem FailsWith.object {r : Reader α} (h : FailsWith P r) (levels : Nat) :
    FailsWith P (Reader.opened levels (Reader.enclosed r closeObject)) :=
  (h.enclosed (failsFixed_closeObject.mono hfixed)).opened (hfixed _ rfl) levels

/-- A list whose bracket is next. -/
theorem FailsWith.list {r : Reader α} (h : FailsWith P r) (levels : Nat) :
    FailsWith P (Reader.opened levels (Reader.enclosed r closeList)) :=
  (h.enclosed (failsFixed_closeList.mono hfixed)).opened (hfixed _ rfl) levels

end Containers

/-! ## Strings -/

theorem failsFixed_hex4 : FailsFixed hex4 := by
  -- The fault stands behind the four bytes, or at the end of the text.
  have hbytes : ∀ c : Cursor, ∀ p ∈ some (c.place.behind 4 c.rest), p.sum ≤ c.extent := by
    rintro c p ⟨⟩
    exact c.place.sum_behind 4 c.rest
  intro c
  unfold hex4
  split
  · split
    · exact c.extent_advance 4
    · exact ⟨rfl, hbytes c, Nat.le_refl _⟩
  · split
    · refine ⟨rfl, ?_, Nat.le_refl _⟩
      rintro p ⟨⟩
      exact c.place.sum_afterAll c.rest
    · exact ⟨rfl, hbytes c, Nat.le_refl _⟩

theorem failsFixed_pairPart (expected : Char) : FailsFixed (pairPart expected) :=
  failsWith_next (failsFixed_failHere rfl) fun _ =>
    failsWith_ite (fun _ => failsWith_skip) fun _ => failsFixed_failAtNext rfl

theorem failsFixed_codeEscape : FailsFixed codeEscape := by
  refine failsFixed_hex4.bind fun n => ?_
  refine failsWith_ite (fun _ => failsFixed_failHere rfl) fun _ => ?_
  refine failsWith_ite (fun _ => ?_) fun _ => failsWith_pure _
  refine (failsFixed_pairPart _).bind fun _ => (failsFixed_pairPart _).bind fun _ =>
    failsFixed_hex4.bind fun m => ?_
  exact failsWith_ite (fun _ => failsWith_pure _) fun _ => failsFixed_failHere rfl

theorem failsFixed_escape : FailsFixed escape := by
  refine failsWith_peek.bind fun next => ?_
  split
  · exact failsFixed_failHere rfl
  · exact failsWith_skip.bind fun _ => failsFixed_codeEscape
  · split
    · exact failsWith_skip.bind fun _ => failsWith_pure _
    · exact failsFixed_failAtNext rfl

theorem failsFixed_stringFrom (fuel : Nat) (read : List Char) :
    FailsFixed (stringFrom fuel read) := by
  induction fuel generalizing read with
  | zero => exact failsFixed_failHere rfl
  | succ fuel ih =>
    refine failsWith_next (failsFixed_failHere rfl) fun c => ?_
    refine failsWith_ite (fun _ => failsWith_skip.bind fun _ => failsWith_pure _) fun _ =>
      failsWith_ite (fun _ => ?_) fun _ => failsWith_ite (fun _ => failsFixed_failAtNext rfl)
        fun _ => failsWith_skip.bind fun _ => ih _
    exact failsWith_skip.bind fun _ => failsFixed_escape.bind fun d => ih _

theorem failsFixed_string : FailsFixed string := fun _ => failsFixed_stringFrom _ _ _

/-! ## Numbers -/

theorem failsFixed_float (negative : Bool) (significand : Nat) (exponent : Int) :
    FailsFixed (float negative significand exponent) := by
  unfold float
  split
  · exact failsWith_pure _
  · exact failsFixed_failHere rfl

theorem failsFixed_exponentSign : FailsFixed exponentSign := by
  refine failsWith_peek.bind fun next => ?_
  split
  · exact failsWith_skip.bind fun _ => failsWith_pure _
  · exact failsWith_skip.bind fun _ => failsWith_pure _
  · exact failsWith_pure _

theorem failsFixed_exponent (negative : Bool) (significand : Nat) (start : Int) :
    FailsFixed (exponent negative significand start) := by
  refine failsWith_skip.bind fun _ => failsFixed_exponentSign.bind fun down => ?_
  refine failsWith_next (failsFixed_failHere rfl) fun c => failsWith_ite
    (fun _ => failsFixed_failAtNext rfl) fun _ => ?_
  intro cursor
  simp only
  split
  · exact (failsFixed_float _ _ _ _).behind (cursor.extent_advance _)
  · split
    · exact (failsFixed_failHere rfl _).behind (cursor.extent_advance _)
    · exact cursor.extent_advance _

theorem failsFixed_exponent? (negative : Bool) (significand : Nat) (start : Int) :
    FailsFixed (exponent? negative significand start) := by
  refine failsWith_peek.bind fun next => ?_
  split
  · exact failsFixed_exponent _ _ _
  · exact failsFixed_exponent _ _ _
  · exact failsFixed_float _ _ _

theorem failsFixed_fraction (negative : Bool) (significand : Nat) (start : Int) :
    FailsFixed (fraction negative significand start) := by
  refine failsWith_skip.bind fun _ => failsWith_digits.bind fun ds => failsWith_ite (fun _ => ?_)
    fun _ => failsFixed_exponent? _ _ _
  exact failsWith_next (failsFixed_failHere rfl) fun _ => failsFixed_failAtNext rfl

theorem failsFixed_afterInteger (negative : Bool) (significand dropped : Nat) :
    FailsFixed (afterInteger negative significand dropped) := by
  refine failsWith_peek.bind fun next => ?_
  split
  · exact failsFixed_fraction _ _ _
  · exact failsFixed_exponent _ _ _
  · exact failsFixed_exponent _ _ _
  · refine failsWith_ite (fun _ => failsFixed_float _ _ _) fun _ => failsWith_ite
      (fun _ => failsWith_pure _) fun _ => ?_
    exact failsWith_ite (fun _ => failsWith_pure _) fun _ => failsWith_pure _

theorem failsFixed_unsignedNumber (negative : Bool) :
    FailsFixed (unsignedNumber negative) := by
  refine failsWith_peek.bind fun next => ?_
  split
  · exact failsFixed_failHere rfl
  · refine failsWith_skip.bind fun _ => ?_
    refine failsWith_next (failsFixed_afterInteger _ _ _) fun d => ?_
    exact failsWith_ite (fun _ => failsFixed_failAtNext rfl) fun _ =>
      failsFixed_afterInteger _ _ _
  · exact failsWith_ite (fun _ => failsWith_digits.bind fun ds => failsFixed_afterInteger _ _ _)
      fun _ => failsFixed_failAtNext rfl

theorem failsFixed_number : FailsFixed number := by
  refine failsWith_peek.bind fun next => ?_
  split
  · exact failsWith_skip.bind fun _ => failsFixed_unsignedNumber _
  · exact failsFixed_unsignedNumber _

/-! ## Values -/

theorem failsFixed_scalar (c : Char) : FailsFixed (scalar c) := by
  refine failsWith_ite (fun _ => ?_) fun _ => failsWith_ite (fun _ => ?_) fun _ => failsWith_ite
    (fun _ => ?_) fun _ => failsWith_ite (fun _ => ?_) fun _ => failsWith_ite (fun _ => ?_) fun _ =>
      (failsFixed_failAtNext rfl)
  · exact failsWith_skip.bind fun _ => (failsFixed_word _).bind fun _ => failsWith_pure _
  · exact failsWith_skip.bind fun _ => (failsFixed_word _).bind fun _ => failsWith_pure _
  · exact failsWith_skip.bind fun _ => (failsFixed_word _).bind fun _ => failsWith_pure _
  · exact failsFixed_number.bind fun n => failsWith_pure _
  · exact failsWith_skip.bind fun _ => failsFixed_string.bind fun s => failsWith_pure _

theorem failsFixed_value (levels : Nat) : FailsFixed (value levels) := by
  have hfixed : ∀ cause : Cause, cause.isFixed = true → cause.isFixed = true := fun _ => id
  -- By the levels that are left: inside a container there is one fewer.
  induction levels with
  | zero =>
    exact failsWith_token (failsFixed_failAtNext rfl) fun _ => failsFixed_failAtNext rfl
  | succ levels ih =>
    refine failsWith_peekToken.bind fun token => ?_
    split
    · exact failsFixed_failAtNext rfl
    · exact ((ih.items hfixed).list hfixed _).bind fun vs => failsWith_pure _
    · refine FailsWith.bind (FailsWith.object hfixed ?_ _) fun ms => failsWith_pure _
      refine (FailsWith.members hfixed failsFixed_string (fun name read => ?_) _).bind
        fun ms => failsWith_pure _
      exact failsFixed_colon.bind fun _ => ih.bind fun v => failsWith_pure _
    · exact failsFixed_scalar _

end Reader

/-! ## Types of values -/

section Types

variable {P : Cause → Prop} (hfixed : ∀ cause, cause.isFixed = true → P cause)
include hfixed

namespace Reader

theorem failsWith_mismatch {expected : String}
    (htype : ∀ found : Found, found.InWord → P (.invalidType found expected)) (c : Char) :
    FailsWith P (mismatch expected c : Reader α) := by
  unfold mismatch
  refine failsWith_ite (fun _ => failsWith_failHere (htype _ trivial)) fun _ => ?_
  refine failsWith_ite (fun _ => failsWith_failHere (htype _ trivial)) fun _ => ?_
  exact ((failsFixed_scalar c).mono hfixed).bind_gives (scalar_inWord c) fun v hv =>
    failsWith_failHere (htype _ hv)

theorem failsWith_leaf {expected : String} {accept : Value → Except Cause α}
    (htype : ∀ found : Found, found.InWord → P (.invalidType found expected))
    (haccept : ∀ v cause, (Found.of v).InWord → accept v = .error cause → P cause) :
    FailsWith P (leaf expected accept) := by
  unfold leaf
  refine failsWith_token (failsWith_failAtNext (hfixed _ rfl)) fun c => ?_
  refine failsWith_ite (fun _ => failsWith_mismatch hfixed htype c) fun _ => ?_
  refine ((failsFixed_scalar c).mono hfixed).bind_gives (scalar_inWord c) fun v hword => ?_
  cases hv : accept v with
  | ok a => exact failsWith_pure a
  | error cause => exact failsWith_failHere (haccept v cause hword hv)

end Reader

namespace Codec

open Reader

theorem text_failsWith (htype : ∀ found : Found, found.InWord → P (.invalidType found "a string"))
    (levels : Nat) : FailsWith P (text.read levels) := by
  refine failsWith_leaf hfixed htype fun v cause hword hv => ?_
  split at hv
  · cases hv
  · cases hv
    exact htype _ hword

theorem int32_failsWith (htype : ∀ found : Found, found.InWord → P (.invalidType found "i32"))
    (hvalue : ∀ n : Int, n.natAbs < 2 ^ 64 → P (.invalidValue (.number (.int n)) "i32"))
    (levels : Nat) : FailsWith P (int32.read levels) := by
  refine failsWith_leaf hfixed htype fun v cause hword hv => ?_
  split at hv
  · split at hv
    · cases hv
    · cases hv
      exact hvalue _ hword
  · cases hv
    exact htype _ hword

theorem float_failsWith (htype : ∀ found : Found, found.InWord → P (.invalidType found "f64"))
    (levels : Nat) : FailsWith P (float.read levels) := by
  refine failsWith_leaf hfixed htype fun v cause hword hv => ?_
  split at hv
  · cases hv
  · cases hv
  · cases hv
    exact htype _ hword

theorem option_failsWith {codec : Codec α} (h : ∀ levels, FailsWith P (codec.read levels))
    (levels : Nat) : FailsWith P (codec.option.read levels) := by
  refine failsWith_peekToken.bind fun token => ?_
  split
  · exact failsWith_skip.bind fun _ => ((failsFixed_word _).mono hfixed).bind fun _ =>
      failsWith_pure _
  · exact (h levels).bind fun a => failsWith_pure _

theorem list_failsWith {codec : Codec α}
    (htype : ∀ found : Found, found.InWord → P (.invalidType found "a sequence"))
    (h : ∀ levels, FailsWith P (codec.read levels)) (levels : Nat) :
    FailsWith P (codec.list.read levels) := by
  refine failsWith_peekToken.bind fun token => ?_
  split
  · exact failsWith_failAtNext (hfixed _ rfl)
  · exact ((h _).items hfixed).list hfixed _
  · exact failsWith_mismatch hfixed htype _

end Codec

end Types

/-! ## Members -/

namespace Fields

open Reader

variable {P : Cause → Prop}

/-- The faults of members with fixed names have causes with the property. -/
structure FailsWith (P : Cause → Prop) (fs : Fields α) : Prop where
  member : ∀ levels name d, name ∈ fs.names → Reader.FailsWith P (fs.readMember levels name d)
  complete : ∀ d cause, fs.complete d = .error cause → P cause

theorem failsWith_done : done.FailsWith P := ⟨nofun, nofun⟩

theorem failsWith_cons {f : Field α} {rest : Fields β}
    (hfixed : ∀ cause, cause.isFixed = true → P cause) (hrepeated : P (.duplicateField f.name))
    (habsent : ∀ cause, f.absent (.missingField f.name) = .error cause → P cause)
    (hcodec : ∀ levels, Reader.FailsWith P (f.codec.read levels)) (hrest : rest.FailsWith P) :
    (cons f rest).FailsWith P where
  member levels name d hmem := by
    refine failsWith_ite (fun _ => failsWith_ite (fun _ => ?_) fun _ => ?_) fun hne => ?_
    · exact failsWith_fail hrepeated
    · exact (failsFixed_colon.mono hfixed).bind fun _ => (hcodec levels).bind fun a =>
        failsWith_pure _
    · have hbehind : name ∈ rest.names := (List.mem_cons.mp hmem).resolve_left hne
      exact (hrest.member levels name d.2 hbehind).bind fun d' => failsWith_pure _
  complete d cause h := by
    -- Either the first value is missing, or one behind it.
    have hbehind : ∀ a : α, (rest.complete d.2).bind (fun b => .ok (a, b)) = .error cause →
        P cause := by
      intro a hbehind
      cases hc : rest.complete d.2 with
      | ok b =>
        rw [hc] at hbehind
        cases hbehind
      | error cause' =>
        rw [hc] at hbehind
        cases hbehind
        exact hrest.complete d.2 cause hc
    unfold cons at h
    simp only at h
    split at h
    · exact hbehind _ h
    · cases hfallback : f.absent (.missingField f.name) with
      | ok a =>
        rw [hfallback] at h
        exact hbehind a h
      | error cause' =>
        rw [hfallback] at h
        cases h
        exact habsent cause hfallback

end Fields

end HistoryAudit.Json
