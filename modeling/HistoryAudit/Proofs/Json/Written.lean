/-
  HistoryAudit.Proofs.Json.Written

  Reading what was written. `Reads` says of a reader what it gets from a text and
  where it stops, so the readers of a written object are put together from those
  of its strings and numbers. Members with fixed names give the same from their
  written form as from their values (`Record.parse_write`).
-/
import HistoryAudit.Json.Printer
import HistoryAudit.Log.Record
import Mathlib.Data.List.Basic

namespace HistoryAudit.Json

namespace Reader

/-- From `text` the reader gets `a`, wherever the text stands, and leaves `rest`. -/
def Reads (r : Reader α) (text : List Char) (a : α) (rest : List Char) : Prop :=
  ∀ place, ∃ place', r ⟨text, place⟩ = .ok a ⟨rest, place'⟩

section Parts

variable {r : Reader α} {a : α} {text mid rest : List Char} {c : Char}

theorem reads_pure (a : α) (text : List Char) : Reads (pure a : Reader α) text a text :=
  fun place => ⟨place, rfl⟩

theorem Reads.bind {k : α → Reader β} {b : β} (hr : Reads r text a mid)
    (hk : Reads (k a) mid b rest) : Reads (r >>= k) text b rest := by
  intro place
  obtain ⟨place', hr⟩ := hr place
  obtain ⟨place'', hk⟩ := hk place'
  refine ⟨place'', ?_⟩
  change EStateM.bind r k _ = _
  rw [EStateM.bind, hr]
  exact hk

/-- A look at the next character takes nothing away. -/
theorem Reads.peek {k : Option Char → Reader α} (h : Reads (k text.head?) text a rest) :
    Reads (peek >>= k) text a rest :=
  Reads.bind (fun place => ⟨place, rfl⟩) h

/-- Nor does a look at the next token, if no blank stands in front of it. -/
theorem Reads.peekToken {k : Option Char → Reader α} (htake : text.takeWhile isSpace = [])
    (h : Reads (k text.head?) text a rest) : Reads (peekToken >>= k) text a rest := by
  have hskip : Reads skipSpace text () text := by
    intro place
    refine ⟨place, ?_⟩
    rw [skipSpace, htake]
    rfl
  have htoken : Reads Reader.peekToken text text.head? text :=
    hskip.bind (Reads.peek (k := fun c => pure c) (reads_pure _ _))
  exact htoken.bind h

theorem Reads.peekToken_cons {c : Char} {k : Option Char → Reader α} (hspace : isSpace c = false)
    (h : Reads (k (some c)) (c :: text) a rest) : Reads (Reader.peekToken >>= k) (c :: text) a rest :=
  Reads.peekToken (List.takeWhile_cons_of_neg (Bool.eq_false_iff.mp hspace)) h

theorem reads_skip : Reads skip (c :: text) () text := fun place => ⟨place.next c, rfl⟩

theorem Reads.skip {k : Unit → Reader α} (h : Reads (k ()) text a rest) :
    Reads (skip >>= k) (c :: text) a rest :=
  reads_skip.bind h

/-- A container whose bracket may be opened. -/
theorem Reads.opened {levels : Nat} (hlevels : levels ≠ 0) (h : Reads r text a rest) :
    Reads (opened levels r) (c :: text) a rest := by
  rw [Reader.opened, if_neg hlevels]
  exact Reads.skip h

theorem Reads.enclosed {close : Reader Unit} (hr : Reads r text a mid)
    (hclose : Reads close mid () rest) : Reads (enclosed r close) text a rest := by
  intro place
  obtain ⟨place', hr⟩ := hr place
  obtain ⟨place'', hclose⟩ := hclose place'
  refine ⟨place'', ?_⟩
  simp only [Reader.enclosed, hr, hclose]

theorem reads_word (letters : List Char) : Reads (word letters) (letters ++ rest) () rest := by
  induction letters with
  | nil => exact reads_pure () rest
  | cons c letters ih =>
    intro place
    obtain ⟨place', hread⟩ := ih (place.next c)
    refine ⟨place', ?_⟩
    rw [List.cons_append, word]
    simp only [↓reduceIte]
    exact hread

/-- A text that is read to its end. -/
theorem run_of_reads {s : String} (h : Reads r s.toList a []) : run r s = .ok a := by
  have hfinish : Reads finish [] () [] := Reads.peekToken rfl (reads_pure _ _)
  have hwhole : Reads (do let a ← r; finish; pure a) s.toList a [] :=
    h.bind (hfinish.bind (reads_pure _ _))
  obtain ⟨place, hwhole⟩ := hwhole .start
  rw [run, Cursor.ofText, hwhole]

end Parts

/-! ## Strings -/

section Strings

variable {c : Char} {rest : List Char}

theorem reads_hex4 {a b d e : Char} {n : Nat} (h : Escape.hex4? a b d e = some n) :
    Reads hex4 (a :: b :: d :: e :: rest) n rest := by
  intro place
  refine ⟨place.afterAll [a, b, d, e], ?_⟩
  rw [hex4]
  simp only [h]
  rfl

/-- Control characters have four digits, of which two are zeros. -/
theorem hex4?_control (h : c.toNat < 0x20) :
    Escape.hex4? '0' '0' (if c.toNat < 0x10 then '0' else '1') (Nat.digitChar (c.toNat % 16)) =
      some c.toNat := by
  have hdigit : ∀ k < 16, Text.hexDigit? (Nat.digitChar k) = some k := by decide
  have hlast := hdigit (c.toNat % 16) (by omega)
  by_cases hsmall : c.toNat < 0x10
  · rw [if_pos hsmall, Escape.hex4?, hlast]
    show some (((0 * 16 + 0) * 16 + 0) * 16 + c.toNat % 16) = _
    rw [Option.some.injEq]
    omega
  · rw [if_neg hsmall, Escape.hex4?, hlast]
    show some (((0 * 16 + 0) * 16 + 1) * 16 + c.toNat % 16) = _
    rw [Option.some.injEq]
    omega

theorem reads_codeEscape_control (h : c.toNat < 0x20) :
    Reads codeEscape ('0' :: '0' :: (if c.toNat < 0x10 then '0' else '1') ::
      Nat.digitChar (c.toNat % 16) :: rest) c rest := by
  refine (reads_hex4 (hex4?_control h)).bind ?_
  have hlow : Escape.isLow c.toNat = false := by
    rw [Escape.isLow, Bool.and_eq_false_iff]
    exact .inl (decide_eq_false (by omega))
  have hhigh : Escape.isHigh c.toNat = false := by
    rw [Escape.isHigh, Bool.and_eq_false_iff]
    exact .inl (decide_eq_false (by omega))
  rw [hlow, hhigh, if_neg Bool.false_ne_true, if_neg Bool.false_ne_true, Char.ofNat_toNat]
  exact reads_pure _ _

/-- An escape with one letter. -/
theorem reads_escape_letter {letter : Char} (hu : letter ≠ 'u')
    (hplain : Escape.plain? letter = some c) : Reads escape (letter :: rest) c rest := by
  refine Reads.peek ?_
  rw [List.head?_cons]
  split
  · rename_i heq
    cases heq
  · rename_i heq
    exact absurd (Option.some.inj heq) hu
  · rename_i d _ heq
    obtain rfl := Option.some.inj heq
    rw [hplain]
    exact Reads.skip (reads_pure _ _)

/-- What is written for a character is an escape of it, or the character as it is. -/
theorem encode_cases (c : Char) :
    (∃ more, Escape.encode c = '\\' :: more ∧ ∀ rest, Reads escape (more ++ rest) c rest) ∨
      (Escape.encode c = [c] ∧ c ≠ '"' ∧ c ≠ '\\' ∧ ¬c.toNat < 0x20) := by
  by_cases hquote : c = '"'
  · subst hquote
    exact .inl ⟨['"'], rfl, fun _ => reads_escape_letter (by decide) rfl⟩
  by_cases hslash : c = '\\'
  · subst hslash
    exact .inl ⟨['\\'], rfl, fun _ => reads_escape_letter (by decide) rfl⟩
  by_cases hb : c = '\x08'
  · subst hb
    exact .inl ⟨['b'], rfl, fun _ => reads_escape_letter (by decide) rfl⟩
  by_cases hf : c = '\x0c'
  · subst hf
    exact .inl ⟨['f'], rfl, fun _ => reads_escape_letter (by decide) rfl⟩
  by_cases hn : c = '\n'
  · subst hn
    exact .inl ⟨['n'], rfl, fun _ => reads_escape_letter (by decide) rfl⟩
  by_cases hr : c = '\r'
  · subst hr
    exact .inl ⟨['r'], rfl, fun _ => reads_escape_letter (by decide) rfl⟩
  by_cases ht : c = '\t'
  · subst ht
    exact .inl ⟨['t'], rfl, fun _ => reads_escape_letter (by decide) rfl⟩
  -- No letter stands for the character.
  have hencode : Escape.encode c = if c.toNat < 0x20 then
      ['\\', 'u', '0', '0', if c.toNat < 0x10 then '0' else '1', Nat.digitChar (c.toNat % 16)]
      else [c] := by
    rw [Escape.encode, if_neg hquote, if_neg hslash, if_neg hb, if_neg hf, if_neg hn, if_neg hr,
      if_neg ht]
  by_cases hcontrol : c.toNat < 0x20
  · rw [if_pos hcontrol] at hencode
    exact .inl ⟨_, hencode, fun _ => Reads.peek (Reads.skip (reads_codeEscape_control hcontrol))⟩
  · rw [if_neg hcontrol] at hencode
    exact .inr ⟨hencode, hquote, hslash, hcontrol⟩

/-- The characters of a string up to the quote behind them. -/
theorem reads_stringFrom (cs : List Char) {fuel : Nat} (hfuel : cs.length < fuel)
    (read : List Char) : Reads (stringFrom fuel read) (cs.flatMap Escape.encode ++ '"' :: rest)
      (String.ofList (read.reverse ++ cs)) rest := by
  induction cs generalizing fuel read with
  | nil =>
    cases fuel with
    | zero => exact absurd hfuel (Nat.not_lt_zero _)
    | succ fuel =>
      rw [List.append_nil]
      exact Reads.peek (Reads.skip (reads_pure _ _))
  | cons c cs ih =>
    cases fuel with
    | zero => exact absurd hfuel (Nat.not_lt_zero _)
    | succ fuel =>
      have hbehind := ih (Nat.lt_of_succ_lt_succ hfuel) (c :: read)
      rw [List.reverse_cons, List.append_assoc, List.singleton_append] at hbehind
      rw [List.flatMap_cons, List.append_assoc]
      refine Reads.peek ?_
      -- A character is escaped or stands for itself.
      obtain ⟨more, hencode, hescape⟩ | ⟨hencode, hquote, hslash, hcontrol⟩ := encode_cases c
      · rw [hencode, List.cons_append, List.head?_cons]
        exact Reads.skip ((hescape _).bind hbehind)
      · rw [hencode, List.singleton_append, List.head?_cons]
        simp only [if_neg hquote, if_neg hslash, if_neg hcontrol]
        exact Reads.skip hbehind

theorem length_le_flatMap_encode (cs : List Char) :
    cs.length ≤ (cs.flatMap Escape.encode).length := by
  induction cs with
  | nil => exact Nat.le_refl 0
  | cons c cs ih =>
    have hone : 1 ≤ (Escape.encode c).length := by
      obtain ⟨more, hencode, -⟩ | ⟨hencode, -⟩ := encode_cases c
      · rw [hencode, List.length_cons]
        omega
      · exact Nat.le_of_eq (congrArg List.length hencode).symm
    rw [List.flatMap_cons, List.length_append, List.length_cons]
    omega

/-- A written string behind its first quote. -/
theorem reads_string (s : String) :
    Reads string (s.toList.flatMap Escape.encode ++ '"' :: rest) s rest := by
  have hfuel : s.toList.length < (s.toList.flatMap Escape.encode ++ '"' :: rest).length + 1 := by
    have hlength := length_le_flatMap_encode s.toList
    rw [List.length_append]
    omega
  have hread : Reads (stringFrom _ []) _ (String.ofList ([].reverse ++ s.toList)) rest :=
    reads_stringFrom s.toList hfuel []
  rw [List.reverse_nil, List.nil_append, String.ofList_toList] at hread
  exact hread

end Strings

/-! ## Numbers -/

/-- What stands behind a value: a comma, the end of a container, or nothing. -/
def Ends (text : List Char) : Prop := ∀ c ∈ text.head?, c = ',' ∨ c = ']' ∨ c = '\x7d'

theorem ends_nil : Ends [] := nofun

theorem ends_cons {c : Char} (h : c = ',' ∨ c = ']' ∨ c = '\x7d') (text : List Char) :
    Ends (c :: text) := by
  rintro c' ⟨⟩
  exact h

theorem Ends.notDigit {text : List Char} (h : Ends text) : ∀ c ∈ text.head?, isDigit c = false := by
  intro c hc
  rcases h c hc with rfl | rfl | rfl <;> rfl

section Numbers

variable {rest : List Char}

theorem reads_digits {ds : List Char} (hds : ∀ c ∈ ds, isDigit c = true)
    (hrest : ∀ c ∈ rest.head?, isDigit c = false) : Reads digits (ds ++ rest) ds rest := by
  have hnone : rest.takeWhile isDigit = [] := by
    cases rest with
    | nil => rfl
    | cons c rest => exact List.takeWhile_cons_of_neg (Bool.eq_false_iff.mp (hrest c rfl))
  have htake : (ds ++ rest).takeWhile isDigit = ds := by
    rw [List.takeWhile_append_of_pos hds, hnone, List.append_nil]
  intro place
  refine ⟨place.afterAll ds, ?_⟩
  rw [digits, htake]
  simp only [Cursor.advance, List.drop_left, List.take_left]

theorem le_ofDigitChars (ds : List Char) (acc : Nat) : acc ≤ Nat.ofDigitChars 10 ds acc := by
  induction ds generalizing acc with
  | nil => exact Nat.le_refl acc
  | cons d ds ih =>
    rw [Nat.ofDigitChars_cons]
    exact Nat.le_trans (by omega) (ih _)

/-- Digits are absorbed as long as their number is small enough. -/
theorem absorb_eq {limit : Nat} (ds : List Char) {acc : Nat}
    (h : Nat.ofDigitChars 10 ds acc ≤ limit) :
    Number.absorb limit acc ds = (Nat.ofDigitChars 10 ds acc, []) := by
  induction ds generalizing acc with
  | nil => rfl
  | cons d ds ih =>
    rw [Nat.ofDigitChars_cons, Nat.mul_comm] at h ⊢
    have hgrown : acc * 10 + (d.toNat - '0'.toNat) ≤ limit :=
      Nat.le_trans (le_ofDigitChars ds _) h
    rw [Number.absorb]
    simp only [if_pos hgrown]
    exact ih h

/-- Only the digits of zero start with a zero. -/
theorem head_toDigits_ne {n : Nat} (h : 0 < n) : (Nat.toDigits 10 n).head? ≠ some '0' := by
  induction n using Nat.strongRecOn with
  | ind n ih =>
    by_cases hsmall : n < 10
    · have hdigit : ∀ k < 10, 0 < k → Nat.digitChar k ≠ '0' := by decide
      rw [Nat.toDigits_of_lt_base hsmall, List.head?_cons]
      intro heq
      exact hdigit n hsmall h (Option.some.inj heq)
    · rw [Nat.toDigits_of_base_le (by decide) (Nat.not_lt.mp hsmall),
        List.head?_append_of_ne_nil _ Nat.toDigits_ne_nil]
      exact ih (n / 10) (by omega) (by omega)

theorem reads_afterInteger (n : Nat) (h : Ends rest) :
    Reads (afterInteger false n 0) rest (.int n) rest := by
  refine Reads.peek ?_
  cases rest with
  | nil => exact reads_pure _ _
  | cons c rest => rcases h c rfl with rfl | rfl | rfl <;> exact reads_pure _ _

theorem reads_unsignedNumber {n : Nat} (hn : n ≤ Number.maxSignificand) (h : Ends rest) :
    Reads (unsignedNumber false) (Nat.toDigits 10 n ++ rest) (.int n) rest := by
  refine Reads.peek ?_
  by_cases hzero : n = 0
  · -- A zero stands alone.
    subst hzero
    refine Reads.skip (Reads.peek ?_)
    have hafter := reads_afterInteger 0 h
    cases rest with
    | nil => exact hafter
    | cons c rest => rcases h c rfl with rfl | rfl | rfl <;> exact hafter
  · have hdigits : ∀ c ∈ Nat.toDigits 10 n, isDigit c = true := fun c hc =>
      Nat.isDigit_of_mem_toDigits (by decide) (Nat.le_refl 10) hc
    -- No digit is dropped, since the number is not too large.
    have hvalue : Number.absorb Number.maxSignificand 0 (Nat.toDigits 10 n) = (n, []) := by
      rw [absorb_eq _ (by rw [Nat.ofDigitChars_ten_toDigits]; exact hn),
        Nat.ofDigitChars_ten_toDigits]
    have hhead := head_toDigits_ne (Nat.pos_of_ne_zero hzero)
    have hall := reads_digits hdigits h.notDigit
    obtain ⟨d, ds, hds⟩ := List.exists_cons_of_ne_nil (Nat.toDigits_ne_nil : Nat.toDigits 10 n ≠ [])
    rw [hds] at hdigits hvalue hhead hall ⊢
    rw [List.cons_append, List.head?_cons]
    split
    · rename_i heq
      cases heq
    · rename_i heq
      exact absurd heq hhead
    · rename_i c _ heq
      obtain rfl := Option.some.inj heq
      rw [if_pos (hdigits d List.mem_cons_self)]
      refine hall.bind ?_
      rw [hvalue]
      exact reads_afterInteger n h

theorem reads_number {n : Nat} (hn : n ≤ Number.maxSignificand) (h : Ends rest) :
    Reads number (Nat.toDigits 10 n ++ rest) (.int n) rest := by
  refine Reads.peek ?_
  split
  · rename_i heq
    have hdigits : ∀ c ∈ Nat.toDigits 10 n, isDigit c = true := fun c hc =>
      Nat.isDigit_of_mem_toDigits (by decide) (Nat.le_refl 10) hc
    rw [List.head?_append_of_ne_nil _ Nat.toDigits_ne_nil] at heq
    exact absurd (hdigits '-' (List.mem_of_mem_head? heq)) (by decide)
  · exact reads_unsignedNumber hn h

end Numbers

end Reader

/-! ## Values -/

/-- A truth value, a text, or a natural number of 64 bits. -/
inductive Value.Plain : Value → Prop
  | bool (b : Bool) : Plain (.bool b)
  | string (s : String) : Plain (.string s)
  | nat {n : Nat} (h : n ≤ Number.maxSignificand) : Plain (.nat n)

section Values

open Reader

variable {v : Value} {rest : List Char}

/-- The first character of a plain value tells how to read it. -/
theorem Value.Plain.reads_scalar (hv : v.Plain) (h : Ends rest) :
    ∃ c more, v.write = c :: more ∧ isSpace c = false ∧ (c ≠ '[' ∧ c ≠ '\x7b') ∧ c ≠ 'n' ∧
      c ≠ ']' ∧ Reads (scalar c) (v.write ++ rest) v rest := by
  cases hv with
  | bool b =>
    cases b with
    | true =>
      refine ⟨'t', _, by rw [Value.write], rfl, by decide, by decide, by decide, ?_⟩
      rw [Value.write]
      exact Reads.skip ((reads_word ['r', 'u', 'e']).bind (reads_pure _ _))
    | false =>
      refine ⟨'f', _, by rw [Value.write], rfl, by decide, by decide, by decide, ?_⟩
      rw [Value.write]
      exact Reads.skip ((reads_word ['a', 'l', 's', 'e']).bind (reads_pure _ _))
  | string s =>
    refine ⟨'"', _, rfl, rfl, by decide, by decide, by decide, ?_⟩
    have htext : (Value.string s).write ++ rest =
        '"' :: (s.toList.flatMap Escape.encode ++ '"' :: rest) := by
      rw [Value.write, writeString, List.cons_append, List.cons_append, List.append_assoc,
        List.singleton_append]
    rw [htext]
    exact Reads.skip ((reads_string s).bind (reads_pure _ _))
  | nat hn =>
    rename_i n
    have hwrite : (Value.nat n).write = Nat.toDigits 10 n := by
      show (toString n).toList = _
      rw [Nat.toString_eq_ofList_toDigits, String.toList_ofList]
    obtain ⟨d, ds, hds⟩ := List.exists_cons_of_ne_nil (Nat.toDigits_ne_nil : Nat.toDigits 10 n ≠ [])
    have hdigit : isDigit d = true :=
      Nat.isDigit_of_mem_toDigits (by decide) (Nat.le_refl 10) (hds ▸ List.mem_cons_self)
    have hother : ∀ c, isDigit c = false → d ≠ c := by
      rintro c hc rfl
      rw [hdigit] at hc
      cases hc
    have hnumber := reads_number hn h
    rw [hwrite]
    refine ⟨d, ds, hds, ?_, ⟨hother _ rfl, hother _ rfl⟩, hother _ rfl, hother _ rfl, ?_⟩
    · simp [isSpace, hother ' ' rfl, hother '\n' rfl, hother '\t' rfl, hother '\r' rfl]
    · -- The first digit is none of the letters, so a number is read.
      rw [scalar, if_neg (hother _ rfl), if_neg (hother _ rfl), if_neg (hother _ rfl),
        if_pos (.inr hdigit)]
      exact hnumber.bind (reads_pure _ _)

/-- A value that is accepted is read. -/
theorem reads_leaf {expected : String} {accept : Value → Except Cause α} {a : α} (hv : v.Plain)
    (h : Ends rest) (haccept : accept v = .ok a) :
    Reads (leaf expected accept) (v.write ++ rest) a rest := by
  obtain ⟨c, more, hwrite, hspace, hbracket, -, -, hscalar⟩ := hv.reads_scalar h
  rw [hwrite] at hscalar ⊢
  refine Reads.peekToken_cons hspace ?_
  show Reads (if c = '[' ∨ c = '\x7b' then mismatch expected c else _) _ _ _
  rw [if_neg (not_or.mpr hbracket)]
  refine hscalar.bind ?_
  rw [haccept]
  exact reads_pure _ _

namespace Codec

/-- From the written form of a plain value comes the same as from the value. -/
def Matches (codec : Codec α) : Prop :=
  ∀ levels v a rest, v.Plain → Ends rest → codec.ofValue .given v = .ok a →
    Reads (codec.read levels) (v.write ++ rest) a rest

theorem matches_leaf (expected : String) (accept : Value → Except Cause α) (toValue : α → Value) :
    (leaf expected accept toValue).Matches :=
  fun _ _ _ _ hv h haccept => reads_leaf hv h haccept

theorem Matches.option {codec : Codec α} (hcodec : codec.Matches) : codec.option.Matches := by
  intro levels v a rest hv h hvalue
  obtain ⟨c, more, hwrite, hspace, -, hnull, -⟩ := hv.reads_scalar h
  -- A plain value is never null here, so the codec itself has taken it.
  have hsome : ∃ a', codec.ofValue .given v = .ok a' ∧ a = some a' := by
    have hmap : codec.option.ofValue .given v = some <$> codec.ofValue .given v := by
      cases hv <;> rfl
    rw [hmap] at hvalue
    cases hc : codec.ofValue .given v with
    | ok a' =>
      rw [hc] at hvalue
      cases hvalue
      exact ⟨a', rfl, rfl⟩
    | error cause =>
      rw [hc] at hvalue
      cases hvalue
  obtain ⟨a', ha', rfl⟩ := hsome
  have hread := hcodec levels v a' rest hv h ha'
  rw [hwrite] at hread ⊢
  refine Reads.peekToken_cons hspace ?_
  split
  · rename_i heq
    exact absurd (Option.some.inj heq) hnull
  · exact hread.bind (reads_pure _ _)

/-- No plain value is a list. -/
theorem matches_list (codec : Codec α) : codec.list.Matches := by
  intro levels v a rest hv h hvalue
  cases hv <;> cases hvalue

end Codec

/-! ## Members -/

theorem reads_colon {text : List Char} : Reads colon (':' :: text) () text :=
  Reads.peekToken_cons rfl reads_skip

namespace Fields

/-- Behind a name that is known, the written form of a plain value gives the same as the value. -/
def Matches (fs : Fields α) : Prop :=
  ∀ levels name v d d' rest, name ∈ fs.names → v.Plain → Ends rest →
    fs.ofMember .given name v d = .ok d' →
      Reads (fs.readMember levels name d) (':' :: v.write ++ rest) d' rest

theorem matches_done : done.Matches := nofun

theorem Matches.cons {f : Field α} {fs : Fields β} (hf : f.codec.Matches) (hfs : fs.Matches) :
    (cons f fs).Matches := by
  intro levels name v d d' rest hname hv h hvalue
  unfold Fields.cons at hvalue ⊢
  simp only at hvalue ⊢
  -- The member belongs to the first field or to the others.
  by_cases heq : name = f.name
  · rw [if_pos heq] at hvalue ⊢
    -- A field that has its value already refuses a second one.
    by_cases hfirst : d.1.isSome = true
    · rw [if_pos hfirst] at hvalue
      cases hvalue
    · rw [if_neg hfirst] at hvalue ⊢
      cases hc : f.codec.ofValue .given v with
      | error cause =>
        rw [hc] at hvalue
        cases hvalue
      | ok a =>
        rw [hc] at hvalue
        cases hvalue
        exact reads_colon.bind ((hf levels v a rest hv h hc).bind (reads_pure _ _))
  · rw [if_neg heq] at hvalue ⊢
    have hbehind : name ∈ fs.names := (List.mem_cons.mp hname).resolve_left heq
    cases hd : fs.ofMember .given name v d.2 with
    | error cause =>
      rw [hd] at hvalue
      cases hvalue
    | ok d₂ =>
      rw [hd] at hvalue
      cases hvalue
      exact (hfs levels name v d.2 d₂ rest hbehind hv h hd).bind (reads_pure _ _)

/-- The last member is taken after all others. -/
theorem ofMembers_concat {fs : Fields α} {ms : List (String × Value)} {m : String × Value}
    {d d' : fs.Draft}
    (hms : ms.foldlM (fun d m => fs.ofMember .given m.1 m.2 d) fs.blank = .ok d)
    (hm : fs.ofMember .given m.1 m.2 d = .ok d') :
    fs.ofMembers .given (ms ++ [m]) = fs.complete d' := by
  rw [ofMembers, List.foldlM_append, hms]
  show ((fs.ofMember .given m.1 m.2 d >>= _) >>= _) = _
  rw [hm]
  rfl

end Fields

end Values

/-! ## Objects -/

namespace Reader

theorem reads_closeObject {text : List Char} : Reads closeObject ('\x7d' :: text) () text :=
  Reads.peekToken_cons rfl reads_skip

/-- The text of one more member: a comma, the member, and the others. -/
theorem writeMembers_cons (m : String × Value) (ms : List (String × Value)) (rest : List Char) :
    Value.writeMembers (m :: ms) ++ rest =
      ',' :: (writeString m.1 ++ (':' :: m.2.write) ++ (Value.writeMembers ms ++ rest)) := by
  rw [Value.writeMembers]
  simp only [List.cons_append, List.append_assoc]

theorem ends_writeMembers (ms : List (String × Value)) (rest : List Char) :
    Ends (Value.writeMembers ms ++ rest) := by
  cases ms with
  | nil =>
    rw [Value.writeMembers]
    exact ends_cons (by decide) rest
  | cons m ms =>
    rw [writeMembers_cons]
    exact ends_cons (by decide) _

theorem length_le_writeMembers (ms : List (String × Value)) :
    ms.length < (Value.writeMembers ms).length := by
  induction ms with
  | nil =>
    rw [Value.writeMembers]
    decide
  | cons m ms ih =>
    rw [Value.writeMembers, List.length_append, List.length_append, List.length_cons,
      List.length_cons, List.length_cons]
    omega

section Members

variable {σ : Type} {member : String → σ → Reader σ} {step : σ → String × Value → Except Cause σ}
  {s s' : σ} {ms : List (String × Value)} {m : String × Value} {rest : List Char}

theorem ok_of_foldlM_cons (h : (m :: ms).foldlM step s = .ok s') :
    ∃ s₁, step s m = .ok s₁ ∧ ms.foldlM step s₁ = .ok s' := by
  rw [List.foldlM_cons] at h
  cases hstep : step s m with
  | ok s₁ =>
    rw [hstep] at h
    exact ⟨s₁, rfl, h⟩
  | error cause =>
    rw [hstep] at h
    cases h

/-- The reader of a member and the step that takes it as a value come to the same. -/
def MemberMatches (member : String → σ → Reader σ) (step : σ → String × Value → Except Cause σ)
    (m : String × Value) : Prop :=
  ∀ s s' rest, step s m = .ok s' → Ends rest →
    Reads (member m.1 s) (':' :: m.2.write ++ rest) s' rest

/-- A member and what is read behind it. -/
theorem reads_member {k : σ → Reader σ} {s₁ : σ} {tail : List Char}
    (hmember : MemberMatches member step m) (hstep : step s m = .ok s₁) (hends : Ends tail)
    (hk : Reads (k s₁) tail s' rest) :
    Reads (do skip; let key ← string; k (← member key s))
      (writeString m.1 ++ (':' :: m.2.write) ++ tail) s' rest := by
  have htext : writeString m.1 ++ (':' :: m.2.write) ++ tail =
      '"' :: (m.1.toList.flatMap Escape.encode ++ '"' :: (':' :: m.2.write ++ tail)) := by
    rw [writeString, List.append_assoc, List.cons_append, List.cons_append, List.append_assoc,
      List.singleton_append]
  rw [htext]
  exact Reads.skip ((reads_string m.1).bind ((hmember s s₁ tail hstep hends).bind hk))

/-- The members behind the first one, up to the end of the object. -/
theorem reads_membersFrom (rest : List Char)
    (hmembers : ∀ m ∈ ms, MemberMatches member step m)
    (hsteps : ms.foldlM step s = .ok s') {fuel : Nat} (hfuel : ms.length < fuel) :
    Reads (membersFrom string member fuel false s) (Value.writeMembers ms ++ rest) s'
      ('\x7d' :: rest) := by
  -- By the members that are left; each takes one step of the fuel.
  induction ms generalizing s fuel with
  | nil =>
    cases fuel with
    | zero => exact absurd hfuel (Nat.not_lt_zero _)
    | succ fuel =>
      cases hsteps
      rw [Value.writeMembers]
      have hend : Reads (hasMember false) ('\x7d' :: rest) false ('\x7d' :: rest) :=
        Reads.peekToken_cons rfl (reads_pure _ _)
      exact hend.bind (reads_pure _ _)
  | cons m ms ih =>
    cases fuel with
    | zero => exact absurd hfuel (Nat.not_lt_zero _)
    | succ fuel =>
      rw [List.forall_mem_cons] at hmembers
      obtain ⟨s₁, hstep, hsteps⟩ := ok_of_foldlM_cons hsteps
      have htail := ih hmembers.2 hsteps (Nat.lt_of_succ_lt_succ hfuel)
      have hread := reads_member hmembers.1 hstep (ends_writeMembers ms rest) htail
      obtain ⟨more, hquote⟩ : ∃ more, writeString m.1 ++ (':' :: m.2.write) ++
          (Value.writeMembers ms ++ rest) = '"' :: more := ⟨_, rfl⟩
      have hfurther : Reads (hasMember false) (',' :: '"' :: more) true ('"' :: more) := by
        refine Reads.peekToken_cons rfl ?_
        exact Reads.skip (Reads.peekToken_cons rfl (reads_pure _ _))
      rw [writeMembers_cons]
      rw [hquote] at hread ⊢
      exact hfurther.bind hread

theorem Reads.members {text : List Char}
    (h : Reads (membersFrom string member (text.length + 1) true s) text s' rest) :
    Reads (members string member s) text s' rest := h

/-- A written object behind its brace, up to its end. -/
theorem reads_members (rest : List Char)
    (hmembers : ∀ m ∈ ms, MemberMatches member step m)
    (hsteps : ms.foldlM step s = .ok s') :
    ∃ body, (Value.object ms).write = '\x7b' :: body ∧
      Reads (members string member s) (body ++ rest) s' ('\x7d' :: rest) := by
  cases ms with
  | nil =>
    cases hsteps
    refine ⟨['\x7d'], by rw [Value.write], ?_⟩
    have hend : Reads (hasMember true) ('\x7d' :: rest) false ('\x7d' :: rest) :=
      Reads.peekToken_cons rfl (reads_pure _ _)
    exact Reads.members (hend.bind (reads_pure _ _))
  | cons m ms =>
    rw [List.forall_mem_cons] at hmembers
    obtain ⟨s₁, hstep, hsteps⟩ := ok_of_foldlM_cons hsteps
    refine ⟨writeString m.1 ++ (':' :: m.2.write) ++ Value.writeMembers ms, ?_, ?_⟩
    · rw [Value.write]
      simp only [List.cons_append, List.append_assoc]
    · -- The text is longer than the members are many.
      have hfuel : ms.length < (writeString m.1 ++ (':' :: m.2.write) ++
          Value.writeMembers ms ++ rest).length := by
        have hlength := length_le_writeMembers ms
        rw [List.length_append, List.length_append]
        omega
      refine Reads.members ?_
      generalize (writeString m.1 ++ (':' :: m.2.write) ++ Value.writeMembers ms ++ rest).length = n
        at hfuel ⊢
      have htail := reads_membersFrom rest hmembers.2 hsteps hfuel
      have hread := reads_member hmembers.1 hstep (ends_writeMembers ms rest) htail
      rw [← List.append_assoc] at hread
      obtain ⟨more, hquote⟩ : ∃ more, writeString m.1 ++ (':' :: m.2.write) ++
          Value.writeMembers ms ++ rest = '"' :: more := ⟨_, rfl⟩
      have hfirst : Reads (hasMember true) ('"' :: more) true ('"' :: more) :=
        Reads.peekToken_cons rfl (reads_pure _ _)
      rw [hquote] at hread ⊢
      exact hfirst.bind hread

end Members

end Reader

end HistoryAudit.Json

/-! ## Lines of a log -/

namespace HistoryAudit.Log.Record

open Json Reader Fields

theorem known_matches : known.Matches := by
  have htext := (Codec.matches_leaf "a string" _ _ : Codec.text.Matches).option
  have hint := (Codec.matches_leaf "i32" _ _ : Codec.int32.Matches).option
  have hfloat := (Codec.matches_leaf "f64" _ _ : Codec.float.Matches).option
  have htexts := (Codec.matches_list Codec.text).option
  exact .cons htext <| .cons htext <| .cons hint <| .cons hfloat <| .cons htexts <| .cons htext <|
    .cons htext matches_done

/-- The step that takes a known member as a value. -/
def takeKnown (d : known.Draft × List (String × Value)) (m : String × Value) :
    Except Cause (known.Draft × List (String × Value)) :=
  (known.ofMember .given m.1 m.2 d.1).map fun d' => (d', d.2)

theorem foldlM_takeKnown (ms : List (String × Value)) {d d' : known.Draft}
    {extra : List (String × Value)}
    (h : ms.foldlM (fun d m => known.ofMember .given m.1 m.2 d) d = .ok d') :
    ms.foldlM takeKnown (d, extra) = .ok (d', extra) := by
  induction ms generalizing d with
  | nil =>
    cases h
    rfl
  | cons m ms ih =>
    obtain ⟨d₁, hstep, hsteps⟩ := ok_of_foldlM_cons h
    rw [List.foldlM_cons, takeKnown, hstep]
    exact ih hsteps

/-- A line that was written with known members alone, none of them a list, is read as what its
members say. -/
theorem parse_write {ms : List (String × Value)} {k : Known}
    (hnames : ∀ m ∈ ms, m.1 ∈ known.names) (hplain : ∀ m ∈ ms, m.2.Plain)
    (hk : known.ofMembers .given ms = .ok k) :
    parse (String.ofList (Value.object ms).write) = .ok (ofKnown [] k) := by
  -- Each known member is read as what it is taken for, and no other is there.
  have hmembers : ∀ m ∈ ms, MemberMatches (readMember (maxDepth - 1)) takeKnown m := by
    intro m hm d d' rest hstep hends
    rw [readMember, if_pos (hnames m hm)]
    rw [takeKnown] at hstep
    cases hd : known.ofMember .given m.1 m.2 d.1 with
    | error cause =>
      rw [hd] at hstep
      cases hstep
    | ok d₁ =>
      rw [hd] at hstep
      cases hstep
      exact (known_matches _ _ _ _ _ _ (hnames m hm) (hplain m hm) hends hd).bind (reads_pure _ _)
  rw [Fields.ofMembers] at hk
  cases hd : ms.foldlM (fun d m => known.ofMember .given m.1 m.2 d) known.blank with
  | error cause =>
    rw [hd] at hk
    cases hk
  | ok d =>
    rw [hd] at hk
    have hcomplete : known.complete d = .ok k := hk
    obtain ⟨body, hwrite, hread⟩ := reads_members [] hmembers (foldlM_takeKnown ms hd)
    refine run_of_reads ?_
    rw [String.toList_ofList, hwrite]
    refine Reads.peekToken_cons rfl (Reads.opened (by decide) ?_)
    rw [List.append_nil] at hread
    refine Reads.enclosed (hread.bind ?_) reads_closeObject
    rw [hcomplete]
    exact reads_pure _ _

end HistoryAudit.Log.Record
