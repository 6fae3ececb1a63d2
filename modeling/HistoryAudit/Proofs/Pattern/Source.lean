/-
  HistoryAudit.Proofs.Pattern.Source

  The expression of a prompt with a number finds just the occurrences of the
  prompt. What the expression means at a place is the occurrence there with the
  most digits (`nodes_means`, `sense_eq_front?`); so the matches of its program
  (`Template.exists_program`), one behind the other and without overlap, are all the
  occurrences, with the numbers captured (`Template.source_finds_occurrences`).
-/
import HistoryAudit.Proofs.Pattern.Spelling
import HistoryAudit.Proofs.Pattern.Swallowed
import HistoryAudit.Proofs.Regex.Emission
import HistoryAudit.Proofs.Text.Utf8
import Mathlib.Data.List.Find

namespace HistoryAudit.Regex

open Pattern.Template (isDigit digitCount?)
open Text (startsWith startsWith_iff)
open Text.Utf8 (encode)

/-! ## Digits -/

theorem holds_digit {n : Nat} :
    Text.CodeRange.holds #[⟨48, 57⟩] n = true ↔ 48 ≤ n ∧ n ≤ 57 := by
  -- One range leaves two comparisons of the search.
  have hsearch : Text.CodeRange.holds #[⟨48, 57⟩] n =
      if n < 48 then false else if 57 < n then false else true := by
    by_cases hlo : n < 48
    · simp [Text.CodeRange.holds, Text.CodeRange.search, hlo]
    · by_cases hhi : 57 < n
      · simp [Text.CodeRange.holds, Text.CodeRange.search, hlo, hhi]
      · simp [Text.CodeRange.holds, Text.CodeRange.search, hlo, hhi]
  rw [hsearch]
  split
  · simp only [Bool.false_eq_true, false_iff]
    omega
  · split
    · simp only [Bool.false_eq_true, false_iff]
      omega
    · simp only [true_iff]
      omega

theorem isDigit_iff {b : UInt8} : isDigit b = true ↔ 48 ≤ b.toNat ∧ b.toNat ≤ 57 := by
  rw [isDigit, Bool.and_eq_true, decide_eq_true_eq, decide_eq_true_eq]
  rfl

theorem toNat_ofNat {m : Nat} (h : m.isValidChar) : (Char.ofNat m).toNat = m := by
  rw [Char.ofNat, dif_pos h]
  rfl

/-- A number above the ASCII range is not the one of a digit, even if it is the one of no
character. -/
theorem not_digit_ofNat {m : Nat} (hm : 0x80 ≤ m) :
    ¬(48 ≤ (Char.ofNat m).toNat ∧ (Char.ofNat m).toNat ≤ 57) := by
  by_cases hvalid : m.isValidChar
  · have hnat : (Char.ofNat m).toNat = m := toNat_ofNat hvalid
    omega
  · rw [Char.ofNat, dif_neg hvalid]
    decide

namespace Cursor

/-- The set of digits takes one byte, which is a digit. -/
theorem step?_digit (c : Cursor) :
    c.step? .characters #[⟨48, 57⟩] =
      if c.after.head?.any isDigit then some (c.advance 1) else none := by
  rcases hafter : c.after with _ | ⟨b, rest⟩
  · simp [step?, nextChar?, hafter]
  rw [List.head?_cons, Option.any_some]
  -- A byte below 128 is a character of its own.
  by_cases hb : b.toNat < 0x80
  · have hstep : Text.Utf8.step b rest = .char (Char.ofNat b.toNat) 1 := by
      rw [Text.Utf8.step, Text.Utf8.lead?]
      simp only [if_pos hb]
      rfl
    have hnat : (Char.ofNat b.toNat).toNat = b.toNat := toNat_ofNat (.inl (by omega))
    have hsame : Text.CodeRange.holds #[⟨48, 57⟩] (Char.ofNat b.toNat).toNat = isDigit b := by
      rw [Bool.eq_iff_iff, holds_digit, isDigit_iff, hnat]
    simp only [step?, nextChar?, hafter, hstep, hsame]
  · -- Any other byte is no digit, and begins no character that is one.
    have hdigit : isDigit b = false := by
      rw [Bool.eq_false_iff, Ne, isDigit_iff]
      omega
    rw [hdigit]
    simp only [step?, nextChar?, hafter]
    cases hstep : Text.Utf8.step b rest with
    | broken size cut => rfl
    | char ch size =>
      obtain ⟨m, rfl, hm⟩ := Text.Utf8.step_of_le (Nat.le_of_not_lt hb) hstep
      simp only
      rw [if_neg (mt holds_digit.mp (not_digit_ofNat hm))]
      rfl

theorem offset_advance {c : Cursor} {n : Nat} (h : n ≤ c.after.length) :
    (c.advance n).offset = c.offset + n := by
  induction n generalizing c with
  | zero => rfl
  | succ n ih =>
    rcases hafter : c.after with _ | ⟨b, rest⟩
    · rw [hafter] at h
      exact absurd h (Nat.not_succ_le_zero n)
    · rw [hafter] at h
      rw [advance, hafter]
      simp only
      rw [ih (Nat.le_of_succ_le_succ h)]
      exact Nat.succ_add_eq_add_succ c.offset n

end Cursor

/-! ## The sense of the parts -/

/-- The place behind the bytes, if they come next. -/
theorem spells_offset (bytes : List UInt8) (c : Cursor) :
    Emitter.spells bytes (fun c => some c.offset) c =
      if startsWith bytes c.after then some (c.offset + bytes.length) else none := by
  rw [Emitter.spells]
  by_cases hstarts : startsWith bytes c.after = true
  · rw [if_pos hstarts, if_pos hstarts,
      Cursor.offset_advance (startsWith_iff.mp hstarts).length_le]
  · rw [if_neg hstarts, if_neg hstarts]

theorem chars_means {rest : List Node} {sense : Sense} (h : (Node.emitSeq rest).Means sense)
    (cs : List Char) :
    (Node.emitSeq (cs.map charNode ++ rest)).Means fun k =>
      Emitter.spells (cs.flatMap String.utf8EncodeChar) (sense k) := by
  induction cs with
  | nil => exact h
  | cons c cs ih =>
    have hchar : encode (String.singleton c) = String.utf8EncodeChar c := by
      rw [encode, String.toList_singleton, List.flatMap_cons, List.flatMap_nil, List.append_nil]
    have hseq := (Emitter.literal_means (encode (String.singleton c))).seq ih
    simp only [hchar, ← Emitter.spells_append] at hseq
    rw [List.map_cons, List.cons_append, Node.emitSeq, charNode, hchar]
    exact hseq

theorem digits_means : digitsNode.emitter.Means fun k c =>
    Emitter.longestRun .characters #[⟨48, 57⟩] k c.after.length c := by
  have hplus := Emitter.nothing_means.seq
    (Emitter.plus_set_means .characters #[⟨48, 57⟩])
  rw [digitsNode, Node.emitter, Node.emitter, digitNode, Node.emitter]
  exact hplus

/-- One digit more in front. -/
theorem digitCount?_cons (after : List UInt8) (b : UInt8) (run : List UInt8) (n : Nat) :
    digitCount? after (b :: run) (n + 1) =
      ((digitCount? after run n).map (· + 1)).or (if startsWith after run then some 1 else none) := by
  induction n with
  | zero => rfl
  | succ n ih =>
    rw [digitCount?, ih, digitCount?, List.drop_succ_cons]
    by_cases hstarts : startsWith after (run.drop (n + 1)) = true
    · rw [if_pos hstarts, if_pos hstarts]
      rfl
    · rw [if_neg hstarts, if_neg hstarts]

/-- The longest run of digits with the text behind it. -/
theorem longestRun_digits (after : List UInt8) (fuel : Nat) (c : Cursor)
    (hfuel : c.after.length ≤ fuel) :
    Emitter.longestRun .characters #[⟨48, 57⟩]
        (Emitter.spells after fun c => some c.offset) fuel c =
      (digitCount? after c.after (c.after.takeWhile isDigit).length).map fun n =>
        c.offset + n + after.length := by
  -- The run goes one digit on at a time and tries the text behind it last first.
  induction fuel generalizing c with
  | zero =>
    rw [List.eq_nil_of_length_eq_zero (Nat.le_zero.mp hfuel)]
    rfl
  | succ fuel ih =>
    rw [Emitter.longestRun, Cursor.step?_digit]
    rcases hafter : c.after with _ | ⟨b, rest⟩
    · rfl
    rw [hafter, List.length_cons] at hfuel
    rw [List.head?_cons, Option.any_some]
    cases hb : isDigit b with
    | false =>
      rw [List.takeWhile_cons, hb]
      rfl
    | true =>
      have hrest : (c.advance 1).after = rest := by
        rw [Cursor.advance_after, hafter]
        rfl
      have hoffset : (c.advance 1).offset = c.offset + 1 := by
        refine Cursor.offset_advance ?_
        rw [hafter]
        exact Nat.succ_pos _
      rw [if_pos rfl, Option.bind_some, ih _ (by rw [hrest]; omega), spells_offset, hrest, hoffset,
        List.takeWhile_cons, hb, if_pos rfl, List.length_cons, digitCount?_cons]
      -- A longer run is preferred; without one, the text has to stand behind this digit.
      cases digitCount? after rest (rest.takeWhile isDigit).length with
      | none =>
        by_cases hstarts : startsWith after rest = true
        · rw [if_pos hstarts, if_pos hstarts]
          rfl
        · rw [if_neg hstarts, if_neg hstarts]
          rfl
      | some n =>
        show some (c.offset + 1 + n + after.length) = some (c.offset + (n + 1) + after.length)
        rw [Nat.succ_add_eq_add_succ c.offset n]

/-- The matches of a program that looks at nothing in front of a match, each one searched for behind
the one before. -/
def Program.matches (p : Program) : (fuel offset : Nat) → List UInt8 → List (Nat × Nat)
  | 0, _, _ => []
  | fuel + 1, offset, hay =>
    match p.find? hay with
    | none => []
    | some (start, stop) =>
      (offset + start, offset + stop) :: p.matches fuel (offset + stop) (hay.drop stop)

end HistoryAudit.Regex

namespace HistoryAudit.Pattern.Template

open Regex (Cursor Emitter Node Program Sense)
open Text (startsWith startsWith_iff)
open Text.Utf8 (encode)

/-! ## The expression at one place -/

/-- What the expression means: the first text, digits, the second text. -/
def sense (t : Template) : Sense := fun k =>
  Emitter.spells (encode t.before) fun c =>
    Emitter.longestRun .characters #[⟨48, 57⟩] (Emitter.spells (encode t.after) k)
      c.after.length c

theorem nodes_means (t : Template) : (Node.emitSeq t.nodes).Means t.sense := by
  have hend : (Node.emitSeq []).Means fun k => k := by
    rw [Node.emitSeq]
    exact Emitter.nothing_means
  have hback := Regex.chars_means hend t.after.toList
  rw [List.append_nil] at hback
  have hnumber := Regex.digits_means.seq hback
  rw [← Node.emitSeq] at hnumber
  exact Regex.chars_means hnumber t.before.toList

/-- At a place the expression takes the occurrence with the most digits. -/
theorem sense_eq_front? (t : Template) (c : Cursor) :
    t.sense (fun c => some c.offset) c = (t.front? c.after).map fun o => c.offset + o.length := by
  rw [sense, Emitter.spells, front?]
  simp only
  by_cases hbefore : startsWith (encode t.before) c.after = true
  · rw [if_pos hbefore, if_pos hbefore, Regex.longestRun_digits _ _ _ (Nat.le_refl _),
      Cursor.advance_after, Cursor.offset_advance (startsWith_iff.mp hbefore).length_le,
      Option.map_map]
    refine congrArg (Option.map · _) (funext fun n => ?_)
    simp only [Function.comp_apply]
    omega
  · rw [if_neg hbefore, if_neg hbefore]
    rfl

/-! ## The first occurrence -/

/-- The first place at which something is found. -/
def first? (t : Template) (hay : List UInt8) : Option (Nat × Occurrence) :=
  (List.range (hay.length + 1)).findSome? fun n => (t.front? (hay.drop n)).map (n, ·)

theorem first?_cons (t : Template) (b : UInt8) (rest : List UInt8) :
    t.first? (b :: rest) =
      ((t.front? (b :: rest)).map (0, ·)).or ((t.first? rest).map fun x => (x.1 + 1, x.2)) := by
  rw [first?, List.length_cons, List.range_succ_eq_map, List.findSome?_cons, List.findSome?_map,
    first?, List.map_findSome?, List.drop_zero]
  have hshift : (fun n => (t.front? ((b :: rest).drop n)).map (n, ·)) ∘ Nat.succ =
      fun n => ((t.front? (rest.drop n)).map (n, ·)).map fun x => (x.1 + 1, x.2) := by
    funext n
    rw [Option.map_map]
    rfl
  rw [hshift]
  cases t.front? (b :: rest) <;> rfl

/-- Behind the bytes that are skipped the search begins anew. -/
theorem occurrencesFrom_skip (t : Template) (skip offset : Nat) (hay : List UInt8) :
    t.occurrencesFrom skip offset hay = t.occurrencesFrom 0 (offset + skip) (hay.drop skip) := by
  induction skip generalizing offset hay with
  | zero => rfl
  | succ skip ih =>
    cases hay with
    | nil =>
      rw [List.drop_nil, occurrencesFrom, occurrencesFrom]
    | cons b rest =>
      rw [occurrencesFrom, ih, List.drop_succ_cons, Nat.succ_add_eq_add_succ offset skip]

/-- The occurrences are the first one and those behind it. -/
theorem occurrencesFrom_eq_first? (t : Template) (offset : Nat) (hay : List UInt8) :
    t.occurrencesFrom 0 offset hay =
      match t.first? hay with
      | none => []
      | some (n, o) =>
        (offset + n, o) ::
          t.occurrencesFrom 0 (offset + (n + o.length)) (hay.drop (n + o.length)) := by
  -- By the bytes: an occurrence at the front is the first one, else it is that of the rest.
  induction hay generalizing offset with
  | nil =>
    rw [occurrencesFrom, first?, List.length_nil, List.range_one, List.findSome?_cons,
      List.drop_zero, front?_nil]
    rfl
  | cons b rest ih =>
    rw [occurrencesFrom, first?_cons]
    cases hfront : t.front? (b :: rest) with
    | some o =>
      have hpos := length_pos_of_front? hfront
      obtain ⟨m, hm⟩ : ∃ m, o.length = m + 1 := ⟨o.length - 1, by omega⟩
      simp only [Option.map_some, Option.some_or, Nat.add_zero, Nat.zero_add]
      rw [occurrencesFrom_skip, hm, List.drop_succ_cons, Nat.add_sub_cancel,
        Nat.succ_add_eq_add_succ offset m]
    | none =>
      simp only [Option.map_none, Option.none_or]
      rw [ih]
      cases t.first? rest with
      | none => rfl
      | some x =>
        have hoffset : offset + 1 + (x.1 + x.2.length) = offset + (x.1 + 1 + x.2.length) := by
          omega
        have hlength : x.1 + 1 + x.2.length = x.1 + x.2.length + 1 := by omega
        simp only [Option.map_some]
        rw [Nat.succ_add_eq_add_succ offset x.1, hoffset, hlength, List.drop_succ_cons]

/-! ## The whole expression -/

theorem length_encode (s : String) : (encode s).length = s.utf8ByteSize := by
  rw [← String.size_toByteArray, ← String.utf8Encode_toList, List.utf8Encode,
    List.size_toByteArray]
  rfl

/-- A text is not longer than the expression for it. -/
theorem utf8ByteSize_le_escape (s : String) : s.utf8ByteSize ≤ (escape s).utf8ByteSize := by
  rw [← length_encode, ← length_encode, encode, encode, escape, String.toList_ofList]
  induction s.toList with
  | nil => exact Nat.le_refl 0
  | cons c cs ih =>
    rw [List.flatMap_cons, List.flatMap_cons, List.flatMap_append, List.length_append,
      List.length_append]
    -- A backslash in front makes a character longer, never shorter.
    have hone : (String.utf8EncodeChar c).length ≤
        ((if Regex.metaCharacters.contains c then ['\\', c] else [c]).flatMap
          String.utf8EncodeChar).length := by
      split
      · rw [List.flatMap_cons, List.flatMap_singleton, List.length_append]
        exact Nat.le_add_left _ _
      · rw [List.flatMap_singleton]
    omega

theorem sizeOfAll_chars (backward : Bool) (cs : List Char) (rest : List Node) :
    Node.sizeOfAll backward (cs.map Regex.charNode ++ rest) =
      32 * (cs.flatMap String.utf8EncodeChar).length + Node.sizeOfAll backward rest := by
  induction cs with
  | nil =>
    rw [List.flatMap_nil, List.length_nil, Nat.mul_zero, Nat.zero_add]
    rfl
  | cons c cs ih =>
    have hchar : encode (String.singleton c) = String.utf8EncodeChar c := by
      rw [encode, String.toList_singleton, List.flatMap_singleton]
    rw [List.map_cons, List.cons_append, Node.sizeOfAll, ih, Regex.charNode, Node.size, hchar,
      Regex.states, List.flatMap_cons, List.length_append, Nat.mul_add, Nat.add_assoc]

/-- An expression that is not too long is not too large. -/
theorem sizeOfAll_nodes_le {t : Template} (h : t.source.utf8ByteSize ≤ longestRegex)
    (backward : Bool) : Node.sizeOfAll backward t.nodes ≤ 32 * longestRegex + 176 := by
  have hbefore := utf8ByteSize_le_escape t.before
  have hafter := utf8ByteSize_le_escape t.after
  have hdigits : Regex.digitsNode.size backward ≤ 176 := by
    cases backward <;> decide
  rw [source, String.utf8ByteSize_append, String.utf8ByteSize_append] at h
  have hback := sizeOfAll_chars backward t.after.toList []
  rw [List.append_nil, Node.sizeOfAll, ← encode, length_encode] at hback
  rw [nodes, sizeOfAll_chars, ← encode, length_encode, Node.sizeOfAll, hback]
  -- The bound is linear in the two lengths.
  have hsum : ∀ b d a n : Nat, d ≤ 176 → b + a ≤ n →
      32 * b + (d + (32 * a + 0)) ≤ 32 * n + 176 := by
    intro b d a n hd hn
    omega
  exact hsum _ _ _ _ hdigits (by omega)

/-- The expression is accepted unless it is too long, and its first match is the first
occurrence. -/
theorem exists_program {t : Template} (h : checkLength t.source = .ok ()) :
    ∃ program, programOf t.source = .ok program ∧
      ∀ hay, program.find? hay = (t.first? hay).map fun x => (x.1, x.1 + x.2.length) := by
  obtain ⟨ast, node, hread, hmeaning, hemitter, hsize⟩ := t.exists_node
  have hlength : t.source.utf8ByteSize ≤ longestRegex := by
    by_contra hlong
    rw [checkLength, if_neg hlong] at h
    cases h
  -- An expression of this length stays far below the limit for its program.
  have htotal : node.totalSize ≤ largestRegex := by
    have hlimit : 32 * longestRegex + 176 + 1000 ≤ largestRegex := by decide
    have hsum : ∀ n frame : Nat, n ≤ 32 * longestRegex + 176 → frame ≤ 1000 →
        n + frame ≤ largestRegex := by
      intro n frame hn hframe
      omega
    rw [Node.totalSize, hsize, hsize, Nat.add_assoc, Nat.add_assoc, Nat.add_assoc, Nat.add_assoc]
    exact Nat.max_le.mpr ⟨hsum _ _ (sizeOfAll_nodes_le hlength false) (by decide),
      hsum _ _ (sizeOfAll_nodes_le hlength true) (by decide)⟩
  refine ⟨node.program, ?_, fun hay => ?_⟩
  · have hnode : (Regex.Ast.ofPattern t.source >>= Regex.Node.ofAst) = .ok node := by
      rw [hread]
      exact hmeaning
    rw [programOf, hnode]
    exact if_pos htotal
  · rw [Regex.Node.find?_eq (hemitter ▸ t.nodes_means) hay, first?, List.map_findSome?]
    refine congrArg (List.findSome? · _) (funext fun n => ?_)
    -- At each place the program and the search agree.
    rw [sense_eq_front?, Option.map_map, Function.comp_apply, Option.map_map]
    rfl

/-- What a program finds first is what the search takes first, so its matches are the
occurrences. -/
theorem matches_eq {t : Template} {program : Program}
    (h : ∀ hay, program.find? hay = (t.first? hay).map fun x => (x.1, x.1 + x.2.length))
    (fuel offset : Nat) (hay : List UInt8) (hfuel : hay.length ≤ fuel) :
    program.matches fuel offset hay =
      (t.occurrencesFrom 0 offset hay).map fun x => (x.1, x.1 + x.2.length) := by
  -- An occurrence is never empty, so what is left gets shorter.
  induction fuel generalizing offset hay with
  | zero =>
    rw [List.eq_nil_of_length_eq_zero (Nat.le_zero.mp hfuel)]
    rfl
  | succ fuel ih =>
    rw [Program.matches, h, occurrencesFrom_eq_first?]
    cases hfirst : t.first? hay with
    | none => rfl
    | some x =>
      obtain ⟨n, hn, hx⟩ := List.exists_of_findSome?_eq_some hfirst
      obtain ⟨o, ho, rfl⟩ := Option.map_eq_some_iff.mp hx
      have hpos := length_pos_of_front? ho
      have hrest : (hay.drop (n + o.length)).length ≤ fuel := by
        rw [List.length_drop]
        omega
      simp only [Option.map_some, List.map_cons]
      rw [ih _ _ hrest, Nat.add_assoc]

/-- What a match holds in the group between the two texts. -/
def captured (t : Template) (hay : List UInt8) (m : Nat × Nat) : List UInt8 :=
  (hay.take (m.2 - (encode t.after).length)).drop (m.1 + (encode t.before).length)

theorem captured_of_mem {t : Template} {hay : List UInt8} {x : Nat × Occurrence}
    (h : x ∈ t.occurrences hay) : t.captured hay (x.1, x.1 + x.2.length) = x.2.digits := by
  obtain ⟨hstands, heq⟩ := standsAt_of_mem_occurrences h
  obtain ⟨rest, hrest⟩ := hstands.here
  have hcount : x.1 + x.2.length - (encode t.after).length - (x.1 + (encode t.before).length) =
      x.2.digits.length := by
    rw [heq, length_word]
    simp only
    omega
  rw [captured, List.drop_take, hcount, ← List.drop_drop, ← hrest, word, List.append_assoc,
    List.append_assoc, List.drop_left, List.take_left]

/-- The expression of a prompt with a number finds the occurrences of the prompt: its matches, from
left to right and without overlap, are as many, with the same extents and digits, and the first one
with a large enough number is what is found. -/
theorem source_finds_occurrences {t : Template} (h : checkLength t.source = .ok ()) :
    ∃ program, programOf t.source = .ok program ∧ ∀ hay : List UInt8,
      ((program.matches hay.length 0 hay).map fun m => (m, t.captured hay m)) =
          ((t.occurrences hay).map fun x => ((x.1, x.1 + x.2.length), x.2.digits)) ∧
        ∀ least, t.find? least hay =
          ((program.matches hay.length 0 hay).find? fun m =>
            (number? (t.captured hay m)).any (least ≤ ·)).map fun m => ⟨m.1, m.2 - m.1⟩ := by
  obtain ⟨program, hprogram, hfind⟩ := exists_program h
  refine ⟨program, hprogram, fun hay => ?_⟩
  have hmatches : program.matches hay.length 0 hay =
      (t.occurrences hay).map fun x => (x.1, x.1 + x.2.length) :=
    matches_eq hfind hay.length 0 hay (Nat.le_refl _)
  refine ⟨?_, fun least => ?_⟩
  · -- The digits captured are those between the two texts.
    rw [hmatches, List.map_map]
    refine List.map_congr_left fun x hx => ?_
    rw [Function.comp_apply, captured_of_mem hx]
  · -- So both searches put the same test to the same number.
    have htest : ((t.occurrences hay).find? fun x => x.2.number?.any (least ≤ ·)) =
        (t.occurrences hay).find? ((fun m => (number? (t.captured hay m)).any (least ≤ ·)) ∘
          fun x => (x.1, x.1 + x.2.length)) := by
      refine List.find?_congr fun x hx => ?_
      rw [Function.comp_apply, captured_of_mem hx]
      rfl
    rw [hmatches, List.find?_map, Option.map_map, find?, htest]
    refine congrArg (Option.map · _) (funext fun x => ?_)
    simp only [Function.comp_apply, Nat.add_sub_cancel_left]

end HistoryAudit.Pattern.Template
