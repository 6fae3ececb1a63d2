/-
  HistoryAudit.Proofs.Json.Pieces

  What a reader takes is a piece of the text, and it takes the same piece in the same
  way wherever else it stands (`Local`). How much it looks at of what follows the
  piece is told by which texts may follow instead: for most readers any text, for
  others any that begins with the same character, and for a number any that ends it.
  So a value is read alike in front of a comma and of a bracket (`local_value`).
-/
import HistoryAudit.Proofs.Json.ByValue
import HistoryAudit.Proofs.Json.Written
import Mathlib.Data.List.TakeWhile

namespace HistoryAudit.Json.Reader

/-! ## What may follow -/

/-- Any text may follow. -/
def Any (_ _ : List Char) : Prop := True

/-- The same character follows. -/
def Same (rest rest' : List Char) : Prop := rest.head? = rest'.head?

/-- The same character follows, or something else that ends a value. -/
def Alike (rest rest' : List Char) : Prop := Same rest rest' ∨ (Ends rest ∧ Ends rest')

theorem same_append {piece : List Char} (h : 0 < piece.length) (rest rest' : List Char) :
    Same (piece ++ rest) (piece ++ rest') := by
  obtain ⟨c, cs, rfl⟩ := List.exists_cons_of_length_pos h
  rfl

theorem Same.append (piece : List Char) {rest rest' : List Char} (h : Same rest rest') :
    Same (piece ++ rest) (piece ++ rest') := by
  cases piece with
  | nil => exact h
  | cons c cs => rfl

theorem Alike.append (piece : List Char) {rest rest' : List Char} (h : Alike rest rest') :
    Alike (piece ++ rest) (piece ++ rest') := by
  cases piece with
  | nil => exact h
  | cons c cs => exact .inl rfl

/-! ## Readers and their parts -/

/-- What the reader takes from a text with the property is a piece of no less than `least`
characters, and it takes the same from that piece when something else follows that may follow. -/
def Local (P : List Char → Prop) (follow : List Char → List Char → Prop) (least : Nat)
    (r : Reader α) : Prop :=
  ∀ text place a rest place', P text → r ⟨text, place⟩ = .ok a ⟨rest, place'⟩ →
    ∃ piece, text = piece ++ rest ∧ least ≤ piece.length ∧
      ∀ rest', follow rest rest' → Reads r (piece ++ rest') a rest'

/-- No property of the text is needed. -/
abbrev Anywhere (_ : List Char) : Prop := True

/-- The text begins with that character. -/
abbrev Begins (c : Char) (text : List Char) : Prop := text.head? = some c

section Parts

variable {P : List Char → Prop} {follow follow' : List Char → List Char → Prop} {m n : Nat}
  {r : Reader α}

theorem Local.mono (h : Local P follow m r) (hfollow : ∀ rest rest', follow' rest rest' →
    follow rest rest') (hle : n ≤ m) : Local P follow' n r := by
  intro text place a rest place' hP hr
  obtain ⟨piece, htext, hleast, hreads⟩ := h text place a rest place' hP hr
  exact ⟨piece, htext, Nat.le_trans hle hleast, fun rest' h => hreads rest' (hfollow rest rest' h)⟩

theorem Local.of_any (h : Local P Any m r) (hle : n ≤ m) : Local P follow n r :=
  h.mono (fun _ _ _ => trivial) hle

/-- Readers that succeed alike are local alike. -/
theorem Local.congr {r' : Reader α} (h : Local P follow m r)
    (hr : ∀ c a c', r' c = .ok a c' ↔ r c = .ok a c') : Local P follow m r' := by
  intro text place a rest place' hP hok
  obtain ⟨piece, htext, hleast, hreads⟩ := h text place a rest place' hP ((hr _ _ _).mp hok)
  refine ⟨piece, htext, hleast, fun rest' hfollow place => ?_⟩
  obtain ⟨place', hread⟩ := hreads rest' hfollow place
  exact ⟨place', (hr _ _ _).mpr hread⟩

/-- A reader that never succeeds. -/
theorem local_refused (h : Gives (fun _ => False) r) : Local P follow m r :=
  fun _ _ a _ _ _ hr => (h _ a _ hr).elim

theorem local_pure (a : α) : Local P follow 0 (pure a : Reader α) := by
  rintro text place _ _ _ - ⟨⟩
  exact ⟨[], rfl, Nat.le_refl 0, fun rest' _ => reads_pure a rest'⟩

/-- The pieces of both parts are one piece. The first part sees what the second one takes, and if
that may be nothing, what follows it. -/
theorem Local.bind {k : α → Reader β} (hr : Local P follow' m r)
    (hk : ∀ a, Local Anywhere follow n (k a))
    (hfollow : ∀ piece rest rest', n ≤ piece.length → follow rest rest' →
      follow' (piece ++ rest) (piece ++ rest')) : Local P follow (m + n) (r >>= k) := by
  intro text place b rest place' hP hok
  obtain ⟨a, ⟨mid, place₁⟩, ha, hb⟩ := bind_eq_ok.mp hok
  obtain ⟨first, rfl, hm, hfirst⟩ := hr text place a mid place₁ hP ha
  obtain ⟨second, rfl, hn, hsecond⟩ := hk a mid place₁ b rest place' trivial hb
  refine ⟨first ++ second, (List.append_assoc ..).symm, ?_, fun rest' h => ?_⟩
  · rw [List.length_append]
    omega
  · rw [List.append_assoc]
    exact (hfirst _ (hfollow second rest rest' hn h)).bind (hsecond rest' h)

/-- What is made of the result takes nothing. -/
theorem Local.bind_pure (h : Local P follow n r) (f : α → β) :
    Local P follow n (r >>= fun a => pure (f a)) := by
  intro text place b rest place' hP hok
  obtain ⟨a, _, ha, ⟨⟩⟩ := bind_eq_ok.mp hok
  obtain ⟨piece, rfl, hleast, hreads⟩ := h text place a rest place' hP ha
  exact ⟨piece, rfl, hleast, fun rest' h => (hreads rest' h).bind (reads_pure _ _)⟩

/-- The same if the second part takes something. -/
theorem Local.bind_same {k : α → Reader β} (hr : Local P Same m r)
    (hk : ∀ a, Local Anywhere follow (n + 1) (k a)) : Local P follow (m + n + 1) (r >>= k) :=
  hr.bind hk fun _ rest rest' hn _ => same_append (Nat.lt_of_lt_of_le (Nat.succ_pos n) hn) rest rest'

/-- The same if the first part looks no further than it takes. -/
theorem Local.bind_any {k : α → Reader β} (hr : Local P Any m r)
    (hk : ∀ a, Local Anywhere follow n (k a)) : Local P follow (m + n) (r >>= k) :=
  hr.bind hk fun _ _ _ _ _ => trivial

theorem local_ite {p : Prop} [Decidable p] {r' : Reader α} (ht : p → Local P follow m r)
    (hf : ¬p → Local P follow m r') : Local P follow m (if p then r else r') := by
  split
  · rename_i h
    exact ht h
  · rename_i h
    exact hf h

theorem local_skip {c : Char} : Local (Begins c) Any 1 skip := by
  intro text place u rest place' hc hok
  cases text with
  | nil => cases hc
  | cons d text =>
    cases hok
    exact ⟨[d], rfl, Nat.le_refl 1, fun rest' _ => reads_skip⟩

/-- At the end of a text there is nothing to pass. -/
theorem local_skip_same : Local P Same 0 skip := by
  intro text place u rest place' _ hok
  cases text with
  | nil =>
    cases hok
    refine ⟨[], rfl, Nat.le_refl 0, fun rest' h place => ?_⟩
    have hrest' : rest' = [] := List.head?_eq_none_iff.mp h.symm
    subst hrest'
    exact ⟨place, rfl⟩
  | cons c text => exact local_skip.of_any (Nat.zero_le 1) (c :: text) place u rest place' rfl hok

/-- A look at the next character decides how to go on. Where nothing is taken, what may follow
decides alike. -/
theorem local_peek {k : Option Char → Reader β} (hnone : Local (· = []) follow n (k none))
    (hsome : ∀ c, Local (Begins c) follow n (k (some c)))
    (hfollow : ∀ piece rest rest', n ≤ piece.length → follow rest rest' →
      k (piece ++ rest').head? = k (piece ++ rest).head?) :
    Local P follow n (peek >>= k) := by
  intro text place b rest place' _ hok
  have hok' : k text.head? ⟨text, place⟩ = .ok b ⟨rest, place'⟩ := hok
  have hlocal : ∃ piece, text = piece ++ rest ∧ n ≤ piece.length ∧
      ∀ rest', follow rest rest' → Reads (k text.head?) (piece ++ rest') b rest' := by
    cases text with
    | nil => exact hnone [] place b rest place' rfl hok'
    | cons c text => exact hsome c (c :: text) place b rest place' rfl hok'
  obtain ⟨piece, rfl, hleast, hreads⟩ := hlocal
  refine ⟨piece, rfl, hleast, fun rest' h => Reads.peek ?_⟩
  rw [hfollow piece rest rest' hleast h]
  exact hreads rest' h

/-- The same if something is taken. -/
theorem local_peek_some {k : Option Char → Reader β} (hnone : Local (· = []) follow (n + 1) (k none))
    (hsome : ∀ c, Local (Begins c) follow (n + 1) (k (some c))) :
    Local P follow (n + 1) (peek >>= k) :=
  local_peek hnone hsome fun _ rest rest' hn _ => congrArg k
    (same_append (Nat.lt_of_lt_of_le (Nat.succ_pos n) hn) rest' rest)

/-- The same if what follows begins alike. -/
theorem local_peek_same {k : Option Char → Reader β} (hnone : Local (· = []) Same n (k none))
    (hsome : ∀ c, Local (Begins c) Same n (k (some c))) : Local P Same n (peek >>= k) :=
  local_peek hnone hsome fun piece _ _ _ h => congrArg k (h.append piece).symm

/-- The same if nothing may be taken and what ends a value decides alike. -/
theorem local_peek_alike {k : Option Char → Reader β}
    (hends : ∀ c, c = ',' ∨ c = ']' ∨ c = '\x7d' → k (some c) = k none)
    (hnone : Local (· = []) Alike n (k none)) (hsome : ∀ c, Local (Begins c) Alike n (k (some c))) :
    Local P Alike n (peek >>= k) := by
  have hend : ∀ {text : List Char}, Ends text → k text.head? = k none := by
    intro text h
    cases text with
    | nil => rfl
    | cons c text => exact hends c (h c rfl)
  refine local_peek hnone hsome fun piece rest rest' _ h => ?_
  cases piece with
  | cons c piece => rfl
  | nil =>
    rcases h with hsame | ⟨hrest, hrest'⟩
    · exact congrArg k hsame.symm
    · exact (hend hrest').trans (hend hrest).symm

theorem takeWhile_eq_nil {p : Char → Bool} {cs : List Char} :
    cs.takeWhile p = [] ↔ ∀ c ∈ cs.head?, p c = false := by
  cases cs with
  | nil => exact ⟨fun _ => nofun, fun _ => rfl⟩
  | cons c cs =>
    have hhead : (∀ d ∈ (c :: cs).head?, p d = false) ↔ p c = false := by simp
    rw [hhead]
    cases hc : p c <;> simp [hc]

/-- What belongs to a class of characters is taken up to a character that does not. -/
theorem local_takeWhile {p : Char → Bool} {r : Reader α} (f : List Char → α)
    (hr : ∀ c, r c = .ok (f (c.rest.takeWhile p)) (c.advance (c.rest.takeWhile p).length))
    (hends : ∀ c, c = ',' ∨ c = ']' ∨ c = '\x7d' → p c = false)
    (hleast : ∀ text, P text → n ≤ (text.takeWhile p).length) : Local P Alike n r := by
  intro text place a rest place' hP hok
  have hleast := hleast text hP
  rw [hr] at hok
  cases hok
  have hpiece : ∀ c ∈ text.takeWhile p, p c = true := fun c hc => List.mem_takeWhile_imp hc
  have hbehind := takeWhile_eq_nil.mp (takeWhile_drop_takeWhile p text)
  generalize htaken : text.takeWhile p = piece at hpiece hbehind hleast ⊢
  have hsplit : text = piece ++ text.drop piece.length :=
    (List.prefix_iff_eq_append.mp (htaken ▸ List.takeWhile_prefix p)).symm
  refine ⟨piece, hsplit, hleast, fun rest' h place => ?_⟩
  -- The characters behind the piece stop it, the same ones or another end.
  have hstop : ∀ c ∈ rest'.head?, p c = false := by
    intro c hc
    rcases h with hsame | ⟨-, hends'⟩
    · exact hbehind c (hsame ▸ hc)
    · exact hends c (hends' c hc)
  have htake : (piece ++ rest').takeWhile p = piece := by
    rw [List.takeWhile_append_of_pos hpiece, takeWhile_eq_nil.mpr hstop, List.append_nil]
  refine ⟨place.afterAll piece, ?_⟩
  rw [hr]
  simp only [htake, Cursor.advance, List.drop_left, List.take_left]

end Parts

/-! ## Strings -/

section Strings

variable {P : List Char → Prop}

theorem local_word (letters : List Char) : Local Anywhere Any letters.length (word letters) := by
  -- Letter by letter: nothing behind the word is looked at.
  induction letters with
  | nil => exact local_pure ()
  | cons c letters ih =>
    intro text place u rest place' _ hok
    cases text with
    | nil => cases hok
    | cons d text =>
      rw [word] at hok
      simp only at hok
      split at hok
      · rename_i hd
        subst hd
        obtain ⟨piece, rfl, hleast, hreads⟩ := ih text _ u rest place' trivial hok
        refine ⟨d :: piece, rfl, Nat.succ_le_succ hleast, fun rest' h place => ?_⟩
        obtain ⟨place', hread⟩ := hreads rest' h (place.next d)
        refine ⟨place', ?_⟩
        rw [List.cons_append, word]
        simp only [if_true]
        exact hread
      · cases hok

theorem local_hex4 : Local P Any 4 hex4 := by
  intro text place n rest place' _ hok
  unfold hex4 at hok
  split at hok
  · rename_i a b d e more heq
    split at hok
    · rename_i hn
      cases heq
      cases hok
      exact ⟨[a, b, d, e], rfl, Nat.le_refl 4, fun rest' _ => reads_hex4 hn⟩
    · cases hok
  · split at hok <;> cases hok

theorem local_pairPart (expected : Char) : Local P Any 1 (pairPart expected) :=
  local_peek_some (local_refused gives_failHere) fun _ =>
    local_ite (fun _ => local_skip) fun _ => local_refused gives_failAtNext

theorem local_codeEscape : Local P Any 4 codeEscape := by
  refine local_hex4.bind_any fun n => local_ite (fun _ => local_refused gives_failHere) fun _ =>
    local_ite (fun _ => ?_) fun _ => local_pure _
  refine ((local_pairPart _).bind_any fun _ => (local_pairPart _).bind_any fun _ =>
    local_hex4.bind_any (n := 0) fun m => ?_).of_any (Nat.zero_le _)
  exact local_ite (fun _ => local_pure _) fun _ => local_refused gives_failHere

theorem local_escape : Local P Any 1 escape := by
  refine local_peek_some (local_refused gives_failHere) fun c => ?_
  split
  · rename_i heq
    cases heq
  · exact (local_skip.bind_any fun _ => local_codeEscape).of_any (by decide)
  · split
    · exact local_skip.bind_any fun _ => local_pure _
    · exact local_refused gives_failAtNext

/-- A string ends with its quote. `fuel` only has to be enough. -/
theorem local_stringFrom {fuel : Nat} {read text rest : List Char} {place place' : Position}
    {s : String} (hok : stringFrom fuel read ⟨text, place⟩ = .ok s ⟨rest, place'⟩) :
    ∃ piece, text = piece ++ rest ∧ 1 ≤ piece.length ∧ ∀ fuel' rest', piece.length ≤ fuel' →
      Reads (stringFrom fuel' read) (piece ++ rest') s rest' := by
  -- On the fuel of the read that is given. The other read may have any that its piece needs.
  induction fuel generalizing read text place with
  | zero => cases hok
  | succ fuel ih =>
    cases text with
    | nil => cases hok
    | cons c text =>
      change (if c = '"' then do skip; pure (String.ofList read.reverse)
        else if c = '\\' then do skip; stringFrom fuel ((← escape) :: read)
        else if c.toNat < 0x20 then failAtNext .controlCharacter
        else do skip; stringFrom fuel (c :: read) : Reader String) ⟨c :: text, place⟩ = _ at hok
      by_cases hquote : c = '"'
      · subst hquote
        cases hok
        refine ⟨['"'], rfl, Nat.le_refl 1, fun fuel' rest' hfuel => ?_⟩
        obtain ⟨n, rfl⟩ := Nat.exists_eq_add_of_le' hfuel
        exact Reads.peek (Reads.skip (reads_pure _ _))
      rw [if_neg hquote] at hok
      by_cases hslash : c = '\\'
      · subst hslash
        obtain ⟨u, _, ⟨⟩, hbehind⟩ := bind_eq_ok.mp hok
        obtain ⟨e, ⟨mid, place₁⟩, he, hrest⟩ := bind_eq_ok.mp hbehind
        obtain ⟨first, rfl, -, hfirst⟩ :=
          (local_escape (P := Anywhere)) text _ e mid place₁ trivial he
        obtain ⟨second, rfl, -, hsecond⟩ := ih hrest
        refine ⟨'\\' :: (first ++ second), ?_, Nat.succ_pos _, fun fuel' rest' hfuel => ?_⟩
        · rw [List.cons_append, List.append_assoc]
        · rw [List.length_cons, List.length_append] at hfuel
          obtain ⟨n, rfl⟩ := Nat.exists_eq_add_of_le' (Nat.le_trans (Nat.le_add_left 1 _) hfuel)
          rw [List.cons_append, List.append_assoc]
          exact Reads.peek (Reads.skip ((hfirst _ trivial).bind (hsecond n rest' (by omega))))
      rw [if_neg hslash] at hok
      by_cases hcontrol : c.toNat < 0x20
      · rw [if_pos hcontrol] at hok
        cases hok
      rw [if_neg hcontrol] at hok
      obtain ⟨u, _, ⟨⟩, hrest⟩ := bind_eq_ok.mp hok
      obtain ⟨second, rfl, -, hsecond⟩ := ih hrest
      refine ⟨c :: second, rfl, Nat.succ_pos _, fun fuel' rest' hfuel => ?_⟩
      rw [List.length_cons] at hfuel
      obtain ⟨n, rfl⟩ := Nat.exists_eq_add_of_le' (Nat.le_trans (Nat.le_add_left 1 _) hfuel)
      refine Reads.peek ?_
      simp only [List.cons_append, List.head?_cons, if_neg hquote, if_neg hslash, if_neg hcontrol]
      exact Reads.skip (hsecond n rest' (by omega))

theorem local_string : Local P Any 1 string := by
  intro text place s rest place' _ hok
  obtain ⟨piece, rfl, hleast, hreads⟩ := local_stringFrom hok
  refine ⟨piece, rfl, hleast, fun rest' _ => ?_⟩
  refine hreads ((piece ++ rest').length + 1) rest' ?_
  rw [List.length_append]
  omega

end Strings

/-! ## Numbers -/

section Numbers

variable {P : List Char → Prop}

theorem isDigit_of_ends (c : Char) (h : c = ',' ∨ c = ']' ∨ c = '\x7d') : isDigit c = false := by
  rcases h with rfl | rfl | rfl <;> rfl

theorem local_digits : Local P Alike 0 digits :=
  local_takeWhile id (fun _ => rfl) isDigit_of_ends fun _ _ => Nat.zero_le _

theorem local_digits_some {c : Char} (hc : isDigit c = true) :
    Local (Begins c) Alike 1 digits := by
  refine local_takeWhile id (fun _ => rfl) isDigit_of_ends fun text htext => ?_
  cases text with
  | nil => cases htext
  | cons d text =>
    obtain rfl := Option.some.inj htext
    rw [List.takeWhile_cons_of_pos hc]
    exact Nat.succ_pos _

theorem local_float (negative : Bool) (significand : Nat) (exponent : Int) :
    Local P Any 0 (float negative significand exponent) := by
  unfold float
  split
  · exact local_pure _
  · exact local_refused gives_failHere

theorem local_exponentSign : Local P Same 0 exponentSign := by
  refine local_peek_same (local_pure _) fun c => ?_
  split
  · exact (local_skip.bind_any fun _ => local_pure _).of_any (Nat.zero_le _)
  · exact (local_skip.bind_any fun _ => local_pure _).of_any (Nat.zero_le _)
  · exact local_pure _

theorem local_exponent {c : Char} (negative : Bool) (significand : Nat) (start : Int) :
    Local (Begins c) Alike 1 (exponent negative significand start) := by
  refine (local_skip.bind_any fun _ => local_exponentSign.bind_same (n := 0) fun down => ?_ :
    Local (Begins c) Alike 2 (exponent negative significand start)).mono (fun _ _ => id) (by decide)
  refine local_peek_some (local_refused gives_failHere) fun c => local_ite
    (fun _ => local_refused gives_failAtNext) fun hc => ?_
  -- Where the exponent is too great, the fault stands before the last digit, so digits are passed in
  -- one only where the reader succeeds.
  have hdigits : Local (Begins c) Alike 1 (digits >>= fun ds =>
      let absorbed := Number.absorb Number.maxExponent 0 ds
      if absorbed.2.isEmpty then
        float negative significand
          (Number.clampExponent (if down then start - absorbed.1 else start + absorbed.1))
      else if significand ≠ 0 ∧ !down then failHere .numberOutOfRange
      else pure (.float (if negative then -0.0 else 0.0))) := by
    refine (local_digits_some (by simpa using hc)).bind (n := 0) (fun ds => ?_)
      fun piece _ _ _ => Alike.append piece
    exact local_ite (fun _ => (local_float _ _ _).of_any (Nat.le_refl 0)) fun _ => local_ite
      (fun _ => local_refused gives_failHere) fun _ => local_pure _
  refine hdigits.congr fun cursor n c' => ?_
  have htaken : ∀ {k : List Char → Reader Number}, (digits >>= k) cursor = .ok n c' ↔
      k (cursor.rest.takeWhile isDigit)
        (cursor.advance (cursor.rest.takeWhile isDigit).length) = .ok n c' := by
    intro k
    rw [bind_eq_ok]
    exact ⟨by rintro ⟨_, _, ⟨⟩, h⟩; exact h, fun h => ⟨_, _, rfl, h⟩⟩
  rw [htaken]
  rcases habsorb : Number.absorb Number.maxExponent 0 (cursor.rest.takeWhile isDigit) with
    ⟨e, _ | ⟨d, dropped⟩⟩
  · simp only [habsorb]
    exact Iff.rfl
  · simp only [habsorb, List.isEmpty_cons, Bool.false_eq_true, if_false]
    split
    · exact ⟨nofun, nofun⟩
    · exact Iff.rfl

theorem local_exponent? (negative : Bool) (significand : Nat) (start : Int) :
    Local P Alike 0 (exponent? negative significand start) := by
  refine local_peek_alike ?_ ((local_float _ _ _).of_any (Nat.le_refl 0)) fun c => ?_
  · rintro c (rfl | rfl | rfl) <;> rfl
  · split
    · exact (local_exponent _ _ _).mono (fun _ _ => id) (Nat.zero_le _)
    · exact (local_exponent _ _ _).mono (fun _ _ => id) (Nat.zero_le _)
    · exact (local_float _ _ _).of_any (Nat.le_refl 0)

theorem local_fraction {c : Char} (negative : Bool) (significand : Nat) (start : Int) :
    Local (Begins c) Alike 1 (fraction negative significand start) := by
  refine local_skip.bind_any fun _ => local_digits.bind (n := 0) (fun ds => ?_)
    fun piece _ _ _ => Alike.append piece
  refine local_ite (fun _ => local_refused (gives_bind fun next => ?_)) fun _ =>
    local_exponent? _ _ _
  split
  · exact gives_failHere
  · exact gives_failAtNext

theorem local_afterInteger (negative : Bool) (significand dropped : Nat) :
    Local P Alike 0 (afterInteger negative significand dropped) := by
  -- Without a dot or an exponent the number ends here, whatever stands behind it.
  have hplain : ∀ P : List Char → Prop, Local P Alike 0
      (if dropped ≠ 0 then float negative significand dropped
        else if !negative then pure (.int significand)
        else if significand = 0 ∨ significand > Nat.pow 2 63 then
          pure (.float (-significand.toUInt64.toFloat))
        else pure (.int (-significand)) : Reader Number) := fun P =>
    local_ite (fun _ => (local_float _ _ _).of_any (Nat.le_refl 0)) fun _ => local_ite
      (fun _ => local_pure _) fun _ => local_ite (fun _ => local_pure _) fun _ => local_pure _
  refine local_peek_alike ?_ (hplain _) fun c => ?_
  · rintro c (rfl | rfl | rfl) <;> rfl
  · split
    · exact (local_fraction _ _ _).mono (fun _ _ => id) (Nat.zero_le _)
    · exact (local_exponent _ _ _).mono (fun _ _ => id) (Nat.zero_le _)
    · exact (local_exponent _ _ _).mono (fun _ _ => id) (Nat.zero_le _)
    · exact hplain _

theorem local_unsignedNumber (negative : Bool) : Local P Alike 1 (unsignedNumber negative) := by
  refine local_peek_some (local_refused gives_failHere) fun c => ?_
  split
  · rename_i heq
    cases heq
  · refine local_skip.bind_any (n := 0) fun _ => local_peek_alike ?_ (local_afterInteger _ _ _)
      fun d => local_ite (fun _ => local_refused gives_failAtNext) fun _ => local_afterInteger _ _ _
    rintro d (rfl | rfl | rfl) <;> rfl
  · rename_i d _ heq
    cases heq
    refine local_ite (fun hd => ?_) fun _ => local_refused gives_failAtNext
    exact (local_digits_some hd).bind (n := 0) (fun ds => local_afterInteger _ _ _)
      fun piece _ _ _ => Alike.append piece

theorem local_number : Local P Alike 1 number := by
  refine local_peek_some (local_unsignedNumber _) fun c => ?_
  split
  · exact (local_skip.bind_any fun _ => local_unsignedNumber _).mono (fun _ _ => id) (by decide)
  · exact local_unsignedNumber _

end Numbers

/-! ## Containers -/

section Containers

variable {P : List Char → Prop} {follow : List Char → List Char → Prop} {n : Nat}

theorem local_skipSpace : Local P Alike 0 skipSpace := by
  refine local_takeWhile (fun _ => ()) (fun _ => rfl) ?_ fun _ _ => Nat.zero_le _
  rintro c (rfl | rfl | rfl) <;> rfl

theorem peekToken_bind (k : Option Char → Reader α) :
    peekToken >>= k = skipSpace >>= fun _ => peek >>= k := bind_assoc _ _ _

/-- The next token decides how to go on. -/
theorem local_token {k : Option Char → Reader α} (hnone : Gives (fun _ => False) (k none))
    (hsome : ∀ c, Local (Begins c) follow (n + 1) (k (some c))) :
    Local P follow (n + 1) (peekToken >>= k) := by
  rw [peekToken_bind]
  refine (Local.bind_same (n := n) (local_skipSpace.mono (fun _ _ => .inl) (Nat.le_refl 0))
    fun _ => local_peek_some (local_refused hnone) hsome).mono (fun _ _ => id) ?_
  omega

/-- The same if nothing may be taken. -/
theorem local_token_same {k : Option Char → Reader α} (hnone : Gives (fun _ => False) (k none))
    (hsome : ∀ c, Local (Begins c) Same 0 (k (some c))) : Local P Same 0 (peekToken >>= k) := by
  rw [peekToken_bind]
  exact Local.bind (n := 0) (local_skipSpace.mono (fun _ _ => .inl) (Nat.le_refl 0))
    (fun _ => local_peek_same (local_refused hnone) hsome) fun piece _ _ _ => Same.append piece

theorem local_closeList : Local P Any 1 closeList := by
  refine local_token gives_failAtNext fun c => local_ite (fun _ => local_skip) fun _ => local_ite
    (fun _ => local_refused (gives_bind fun _ => gives_bind fun next => ?_)) fun _ =>
      local_refused gives_failAtNext
  split <;> exact gives_failAtNext

theorem local_closeObject : Local P Any 1 closeObject :=
  local_token gives_failAtNext fun _ => local_ite (fun _ => local_skip) fun _ => local_ite
    (fun _ => local_refused gives_failAtNext) fun _ => local_refused gives_failAtNext

theorem local_colon : Local P Any 1 colon :=
  local_token gives_failAtNext fun _ => local_ite (fun _ => local_skip) fun _ =>
    local_refused gives_failAtNext

theorem local_hasItem (first : Bool) : Local P Same 0 (hasItem first) := by
  refine local_token_same gives_failAtNext fun c => local_ite (fun _ => local_pure _) fun _ =>
    local_ite (fun _ => local_pure _) fun _ => local_ite (fun _ => ?_) fun _ =>
      local_refused gives_failAtNext
  refine (local_skip.bind_any fun _ => local_token_same gives_failAtNext fun d => ?_).mono
    (fun _ _ => id) (Nat.zero_le _)
  exact local_ite (fun _ => local_refused gives_failAtNext) fun _ => local_pure _

theorem local_hasMember (first : Bool) : Local P Same 0 (hasMember first) := by
  refine local_token_same gives_failAtNext fun c => local_ite (fun _ => local_pure _) fun _ =>
    local_ite (fun _ => local_ite (fun _ => local_pure _) fun _ => local_refused gives_failAtNext)
      fun _ => local_ite (fun _ => ?_) fun _ => local_refused gives_failAtNext
  refine (local_skip.bind_any fun _ => local_token_same gives_failAtNext fun d => ?_).mono
    (fun _ _ => id) (Nat.zero_le _)
  exact local_ite (fun _ => local_pure _) fun _ => local_ite
    (fun _ => local_refused gives_failAtNext) fun _ => local_refused gives_failAtNext

theorem local_enclosed {r : Reader α} {close : Reader Unit} (hr : Local P Same 0 r)
    (hclose : Local Anywhere Any 1 close) : Local P Any 1 (enclosed r close) := by
  have hboth : Local P Any 1 (do let a ← r; close; pure a : Reader α) :=
    hr.bind_same (n := 0) fun a => hclose.bind_any fun _ => local_pure a
  refine hboth.congr fun c a c' => ?_
  rw [enclosed_eq_ok]
  simp only [bind_eq_ok, pure_eq_ok]
  constructor
  · rintro ⟨c₁, hr, hclose⟩
    exact ⟨a, c₁, hr, (), c', hclose, rfl, rfl⟩
  · rintro ⟨_, c₁, hr, _, c₂, hclose, rfl, rfl⟩
    exact ⟨c₁, hr, hclose⟩

/-- A list is taken up to its bracket. `fuel` only has to be enough. -/
theorem local_itemsFrom {item : Reader α} (hitem : Local Anywhere Same 1 item) {fuel : Nat}
    {first : Bool} {text rest : List Char} {place place' : Position} {as : List α}
    (hok : itemsFrom item fuel first ⟨text, place⟩ = .ok as ⟨rest, place'⟩) :
    ∃ piece, text = piece ++ rest ∧ ∀ fuel' rest', piece.length < fuel' → Same rest rest' →
      Reads (itemsFrom item fuel' first) (piece ++ rest') as rest' := by
  induction fuel generalizing first text place as with
  | zero => cases hok
  | succ fuel ih =>
    obtain ⟨further, ⟨mid, place₁⟩, hhas, hrest⟩ := bind_eq_ok.mp hok
    obtain ⟨lead, rfl, -, hlead⟩ := local_hasItem (P := Anywhere) first text place further mid place₁
      trivial hhas
    cases further with
    | false =>
      cases hrest
      refine ⟨lead, rfl, fun fuel' rest' hfuel h => ?_⟩
      obtain ⟨n, rfl⟩ := Nat.exists_eq_succ_of_ne_zero (Nat.ne_zero_of_lt hfuel)
      exact (hlead rest' h).bind (reads_pure _ _)
    | true =>
      -- The piece is what leads to the item, the item, and the piece of the other items.
      obtain ⟨a, ⟨mid₂, place₂⟩, ha, hrest⟩ := bind_eq_ok.mp hrest
      obtain ⟨as', ⟨_, _⟩, has, ⟨⟩⟩ := bind_eq_ok.mp hrest
      obtain ⟨one, rfl, hone, hreads⟩ := hitem mid place₁ a mid₂ place₂ trivial ha
      obtain ⟨others, rfl, hothers⟩ := ih has
      refine ⟨lead ++ (one ++ others), by simp only [List.append_assoc], fun fuel' rest' hfuel h => ?_⟩
      rw [List.length_append, List.length_append] at hfuel
      obtain ⟨n, rfl⟩ := Nat.exists_eq_succ_of_ne_zero (Nat.ne_zero_of_lt hfuel)
      have hbehind := hothers n rest' (by omega) h
      simp only [List.append_assoc]
      exact (hlead _ ((h.append others).append one)).bind
        ((hreads _ (h.append others)).bind (hbehind.bind (reads_pure _ _)))

theorem local_items {item : Reader α} (hitem : Local Anywhere Same 1 item) :
    Local P Same 0 (items item) := by
  intro text place as rest place' _ hok
  obtain ⟨piece, rfl, hreads⟩ := local_itemsFrom hitem hok
  refine ⟨piece, rfl, Nat.zero_le _, fun rest' h => ?_⟩
  refine hreads ((piece ++ rest').length + 1) rest' ?_ h
  rw [List.length_append]
  omega

/-- An object is taken up to its brace. `fuel` only has to be enough. -/
theorem local_membersFrom {σ : Type} {member : String → σ → Reader σ}
    (hmember : ∀ name x, Local Anywhere Same 1 (member name x)) {fuel : Nat} {first : Bool}
    {text rest : List Char} {place place' : Position} {x x' : σ}
    (hok : membersFrom string member fuel first x ⟨text, place⟩ = .ok x' ⟨rest, place'⟩) :
    ∃ piece, text = piece ++ rest ∧ ∀ fuel' rest', piece.length < fuel' → Same rest rest' →
      Reads (membersFrom string member fuel' first x) (piece ++ rest') x' rest' := by
  induction fuel generalizing first text place x with
  | zero => cases hok
  | succ fuel ih =>
    obtain ⟨further, ⟨mid, place₁⟩, hhas, hrest⟩ := bind_eq_ok.mp hok
    obtain ⟨lead, rfl, -, hlead⟩ := local_hasMember (P := Anywhere) first text place further mid
      place₁ trivial hhas
    cases further with
    | false =>
      cases hrest
      refine ⟨lead, rfl, fun fuel' rest' hfuel h => ?_⟩
      obtain ⟨n, rfl⟩ := Nat.exists_eq_succ_of_ne_zero (Nat.ne_zero_of_lt hfuel)
      exact (hlead rest' h).bind (reads_pure _ _)
    | true =>
      -- The name and what follows it are one piece.
      have hmember' : Local Anywhere Same 1 (do skip; let key ← string; member key x) :=
        (local_skip_same.bind_same (n := 1) fun _ => local_string.bind_any fun key =>
          hmember key x).mono (fun _ _ => id) (by decide)
      have hassoc : ∀ n, (do
            skip; let key ← string; membersFrom string member n false (← member key x)) =
          (do skip; let key ← string; member key x) >>= membersFrom string member n false := by
        intro n
        simp only [bind_assoc]
      change (do skip; let key ← string; membersFrom string member fuel false (← member key x)) _ = _
        at hrest
      rw [hassoc] at hrest
      obtain ⟨x₁, ⟨mid₂, place₂⟩, hx₁, hmore⟩ := bind_eq_ok.mp hrest
      obtain ⟨one, rfl, hone, hreads⟩ := hmember' mid place₁ x₁ mid₂ place₂ trivial hx₁
      obtain ⟨others, rfl, hothers⟩ := ih hmore
      refine ⟨lead ++ (one ++ others), by simp only [List.append_assoc], fun fuel' rest' hfuel h => ?_⟩
      rw [List.length_append, List.length_append] at hfuel
      obtain ⟨n, rfl⟩ := Nat.exists_eq_succ_of_ne_zero (Nat.ne_zero_of_lt hfuel)
      have hbehind := (hreads _ (h.append others)).bind (hothers n rest' (by omega) h)
      rw [← hassoc] at hbehind
      simp only [List.append_assoc]
      exact (hlead _ ((h.append others).append one)).bind hbehind

theorem local_members {σ : Type} {member : String → σ → Reader σ}
    (hmember : ∀ name x, Local Anywhere Same 1 (member name x)) (x : σ) :
    Local P Same 0 (members string member x) := by
  intro text place x' rest place' _ hok
  obtain ⟨piece, rfl, hreads⟩ := local_membersFrom hmember hok
  refine ⟨piece, rfl, Nat.zero_le _, fun rest' h => ?_⟩
  refine hreads ((piece ++ rest').length + 1) rest' ?_ h
  rw [List.length_append]
  omega

theorem local_keepMember {s : Reader α} (hs : Local Anywhere follow 1 s) (name : String)
    (kept : List (String × α)) : Local P follow 1 (keepMember s name kept) :=
  (local_colon.bind_any fun _ => hs.bind_pure _).mono (fun _ _ => id) (by decide)

end Containers

/-! ## Values -/

theorem local_opened {r : Reader α} {c : Char} (hr : Local Anywhere Any 1 r) (levels : Nat) :
    Local (Begins c) Any 1 (opened levels r) :=
  local_ite (fun _ => local_refused gives_failAtNext) fun _ =>
    (local_skip.bind_any fun _ => hr).mono (fun _ _ => id) (by decide)

theorem local_scalar (c : Char) : Local (Begins c) Alike 1 (scalar c) := by
  have hword : ∀ (letters : List Char) (v : Value),
      Local (Begins c) Alike 1 (do skip; word letters; pure v : Reader Value) := fun letters v =>
    (local_skip.bind_any fun _ => (local_word letters).bind_any fun _ => local_pure v).mono
      (fun _ _ => id) (Nat.le_add_right 1 _)
  refine local_ite (fun _ => hword _ _) fun _ => local_ite (fun _ => hword _ _) fun _ => local_ite
    (fun _ => hword _ _) fun _ => local_ite (fun _ => ?_) fun _ => local_ite (fun _ => ?_) fun _ =>
      local_refused gives_failAtNext
  · exact local_number.bind_pure _
  · exact (local_skip.bind_any fun _ => local_string.bind_any fun s => local_pure _).mono
      (fun _ _ => id) (by decide)

/-- How a value is read does not depend on what follows it, as long as that ends it. -/
theorem local_value (levels : Nat) {P : List Char → Prop} : Local P Alike 1 (value levels) := by
  -- A container looks at nothing behind its bracket, and what it contains ends inside.
  induction levels generalizing P with
  | zero =>
    refine local_refused (gives_bind fun token => ?_)
    split <;> exact gives_failAtNext
  | succ levels ih =>
    have hsame : Local Anywhere Same 1 (value levels) := ih.mono (fun _ _ => .inl) (Nat.le_refl 1)
    refine local_token gives_failAtNext fun c => ?_
    split
    · rename_i heq
      cases heq
    · exact ((local_opened (local_enclosed (local_items hsame) local_closeList) levels).bind_pure
        _).of_any (Nat.le_refl 1)
    · have hmembers := local_members (P := Anywhere) (fun name kept => local_keepMember hsame name kept) []
      exact ((local_opened (local_enclosed (hmembers.bind_pure List.reverse) local_closeObject)
        levels).bind_pure _).of_any (Nat.le_refl 1)
    · rename_i heq
      cases heq
      exact local_scalar _

end HistoryAudit.Json.Reader
