/-
  HistoryAudit.Proofs.Pattern.Spelling

  How the expression that describes a prompt with a number is read. A character
  of the texts is one literal, with a backslash or without (`items_text`), and
  the group in the middle is one or more digits (`items_number`). So the
  expression is read whole, and means the bytes of the two texts with the digits
  between them (`Template.exists_node`).
-/
import HistoryAudit.Pattern.Basic
import Mathlib.Data.List.Forall2

namespace HistoryAudit.Regex

/-- The tree means the node, and is so high at most. -/
structure Ast.Reads (height : Nat) (ast : Ast) (node : Node) : Prop where
  meaning : ast.meaning {} = .ok (node, {})
  low : ∀ depth, depth + height ≤ nestLimit → ast.deepest? depth = none

/-- A character that stands for itself. -/
def charNode (c : Char) : Node := .literal (Text.Utf8.encode (String.singleton c))

/-- The digits, as a set. -/
def digitNode : Node := .set .characters [⟨48, 57⟩]

/-- Digits, one at least. -/
def digitsNode : Node := .capture (.repeats 1 none true digitNode)

namespace Ast

variable {height depth : Nat} {ast : Ast} {node : Node}

theorem tooDeep?_eq_none {s : Span} (h : depth ≤ nestLimit) : tooDeep? depth s = none :=
  if_neg (Nat.not_lt.mpr h)

theorem Reads.mono {more : Nat} (h : ast.Reads height node) (hle : height ≤ more) :
    ast.Reads more node :=
  ⟨h.meaning, fun depth hdepth => h.low depth (by omega)⟩

theorem reads_literal (span : Span) (c : Char) :
    (Ast.literal span ⟨c, none⟩).Reads 0 (charNode c) := by
  refine ⟨?_, fun _ _ => rfl⟩
  rw [meaning, Flags.literal]
  simp [Flags.byte?, Flags.fold, charNode]

theorem reads_bracketed (s₁ s₂ s₃ s₄ : Span) :
    (bracketed s₁ false (.range s₂ (⟨'0', none⟩, s₃) (⟨'9', none⟩, s₄))).Reads 1 digitNode := by
  refine ⟨?_, fun depth hdepth => ?_⟩
  · have hcodes : (ClassSet.range s₂ (⟨'0', none⟩, s₃) (⟨'9', none⟩, s₄)).codes {} =
        .ok [⟨48, 57⟩] := by
      rw [ClassSet.codes]
      simp [Flags.code, Flags.byte?, Text.CodeSet.ofRanges, Text.CodeSet.join, Text.CodeSet.join.go]
      rfl
    simp only [meaning, hcodes]
    rfl
  · rw [deepest?, tooDeep?_eq_none hdepth]
    rfl

theorem Reads.repetition (h : ast.Reads height node) (s : Span) (least : Nat)
    (most? : Option Nat) :
    (Ast.repetition s least most? true ast).Reads (height + 1)
      (.repeats least most? true node) := by
  refine ⟨?_, fun depth hdepth => ?_⟩
  · simp only [Ast.meaning, h.meaning]
    rfl
  · rw [deepest?, tooDeep?_eq_none (by omega), h.low (depth + 1) (by omega)]
    rfl

theorem Reads.group (h : ast.Reads height node) (s : Span) :
    (Ast.group s .capture ast).Reads (height + 1) (.capture node) := by
  refine ⟨?_, fun depth hdepth => ?_⟩
  · simp only [Ast.meaning, h.meaning]
    rfl
  · rw [deepest?, tooDeep?_eq_none (by omega), h.low (depth + 1) (by omega)]
    rfl

section List

variable {asts : List Ast} {nodes : List Node}

theorem meanings_eq (h : List.Forall₂ (Reads height) asts nodes) :
    meanings {} asts = .ok (nodes, {}) := by
  induction h with
  | nil => rfl
  | cons hast _ ih => simp [meanings, hast.meaning, ih, bind, Except.bind, pure, Except.pure]

theorem deepestOf?_eq (h : List.Forall₂ (Reads height) asts nodes)
    (hdepth : depth + height ≤ nestLimit) : deepestOf? depth asts = none := by
  induction h with
  | nil => rfl
  | cons hast _ ih =>
    rw [deepestOf?, hast.low depth hdepth, ih]
    rfl

theorem reads_concat (h : List.Forall₂ (Reads height) asts nodes) (s : Span) :
    (concat s asts).Reads (height + 1) (.cat nodes) := by
  refine ⟨?_, fun depth hdepth => ?_⟩
  · simp only [meaning, meanings_eq h]
    rfl
  · rw [deepest?, tooDeep?_eq_none (by omega), deepestOf?_eq h (by omega)]
    rfl

end List

end Ast

namespace Reader

variable {group? : Option Span} {first start p : Place} {branches asts : List Ast}
  {names : List (String × Span)}

/-! ## Running a reader -/

section Run

variable {α β : Type} {space : Bool} {s : Input}

@[simp]
theorem bind_apply (r : Reader α) (f : α → Reader β) :
    (r >>= f) s = (r s).bind fun x => f x.1 x.2 := rfl

@[simp]
theorem map_apply (f : α → β) (r : Reader α) :
    (f <$> r) s = (r s).bind fun x => .ok (f x.1, x.2) := rfl

@[simp]
theorem ok_bind {ε : Type} (a : α) (f : α → Except ε β) : (Except.ok a).bind f = f a := rfl

@[simp]
theorem get_apply : (get : Reader Input) s = .ok (s, s) := rfl

@[simp]
theorem modify_apply (f : Input → Input) : (modify f : Reader Unit) s = .ok ((), f s) := rfl

@[simp]
theorem char?_apply : char? s = .ok (s.rest.head?, s) := rfl

@[simp]
theorem place_apply : place s = .ok (s.place, s) := rfl

@[simp]
theorem spanFrom_apply (start : Place) : spanFrom start s = .ok (⟨start, s.place⟩, s) := rfl

@[simp]
theorem charSpan_apply {c : Char} {cs : List Char} :
    charSpan ⟨c :: cs, p, space, names⟩ = .ok (⟨p, p.next c⟩, ⟨c :: cs, p, space, names⟩) := rfl

@[simp]
theorem bump_apply {c : Char} {cs : List Char} :
    bump ⟨c :: cs, p, space, names⟩ = .ok ((), ⟨cs, p.next c, space, names⟩) := rfl

@[simp]
theorem bumpSpace_apply {cs : List Char} :
    bumpSpace ⟨cs, p, false, names⟩ = .ok ((), ⟨cs, p, false, names⟩) := rfl

end Run

/-! ## Items -/

/-- A text in which every character stands for itself. -/
def spelled (cs : List Char) : List Char :=
  cs.flatMap fun c => if metaCharacters.contains c then ['\\', c] else [c]

theorem length_spelled (cs : List Char) : cs.length ≤ (spelled cs).length := by
  induction cs with
  | nil => exact Nat.le_refl 0
  | cons c cs ih =>
    rw [spelled, List.flatMap_cons, List.length_append, List.length_cons]
    have hone : 1 ≤ (if metaCharacters.contains c then ['\\', c] else [c]).length := by
      split <;> exact Nat.succ_pos _
    have hrest : cs.length ≤ (cs.flatMap fun c =>
      if metaCharacters.contains c then ['\\', c] else [c]).length := ih
    omega

/-- A character that opens and repeats nothing is an item. -/
theorem items_primitive (fuel : Nat) {c : Char} {cs : List Char}
    (hc : c ∉ ['(', ')', '|', '[', '\x7b', '?', '*', '+']) {ast : Ast} {s : Input}
    (hprimitive : primitive c ⟨c :: cs, p, false, names⟩ = .ok (ast, s)) :
    items (fuel + 1) group? first branches start asts ⟨c :: cs, p, false, names⟩ =
      items fuel group? first branches start (asts ++ [ast]) s := by
  simp only [List.mem_cons, List.not_mem_nil, or_false, not_or] at hc
  conv =>
    lhs
    unfold items
  simp [hc, hprimitive]

theorem metaCharacters_eq : metaCharacters =
    ['\\', '.', '+', '*', '?', '(', ')', '|', '[', ']', '\x7b', '\x7d', '^', '$', '#', '&',
      '-', '~'] := rfl

theorem primitive_plain {c : Char} {cs : List Char} (hc : c ∉ metaCharacters) :
    primitive c ⟨c :: cs, p, false, names⟩ =
      .ok (.literal ⟨p, p.next c⟩ ⟨c, none⟩, ⟨cs, p.next c, false, names⟩) := by
  have hplain : c ∉ ['\\', '.', '^', '$'] := by
    intro h
    refine hc ?_
    have hsub : ∀ d ∈ ['\\', '.', '^', '$'], d ∈ metaCharacters := by simp [metaCharacters_eq]
    exact hsub c h
  simp only [List.mem_cons, List.not_mem_nil, or_false, not_or] at hplain
  rw [primitive, if_neg hplain.1]
  simp [hplain]

theorem primitive_escaped {c : Char} {cs : List Char} (hc : c ∈ metaCharacters) :
    primitive '\\' ⟨'\\' :: c :: cs, p, false, names⟩ =
      .ok (.literal ⟨p, (p.next '\\').next c⟩ ⟨c, none⟩,
        ⟨cs, (p.next '\\').next c, false, names⟩) := by
  -- Behind a backslash such a character has no other meaning.
  have hfacts : ∀ d ∈ metaCharacters, (d.isDigit = false ∧ d ∉ ['x', 'u', 'U', 'p', 'P']) ∧
      perlClass? d = none ∧ isEscapable d = true := by
    simp [metaCharacters_eq, perlClass?, isEscapable, Char.isDigit]
  obtain ⟨⟨hdigit, hletter⟩, hperl, hescapable⟩ := hfacts c hc
  simp only [List.mem_cons, List.not_mem_nil, or_false, not_or] at hletter
  rw [primitive, if_pos rfl, escape]
  simp [hdigit, hletter, hperl, hescapable]

/-- A text is read character by character. -/
theorem items_text (cs rest : List Char) (fuel : Nat) :
    ∃ more p', List.Forall₂ (Ast.Reads 0) more (cs.map charNode) ∧
      items (cs.length + fuel) group? first branches start asts
          ⟨spelled cs ++ rest, p, false, names⟩ =
        items fuel group? first branches start (asts ++ more) ⟨rest, p', false, names⟩ := by
  induction cs generalizing asts p with
  | nil => exact ⟨[], p, .nil, by rw [List.append_nil, List.length_nil, Nat.zero_add]; rfl⟩
  | cons c cs ih =>
    -- The first character is one item, with a backslash or without.
    have hitem : ∃ span p', items (cs.length + fuel + 1) group? first branches start asts
          ⟨spelled (c :: cs) ++ rest, p, false, names⟩ =
        items (cs.length + fuel) group? first branches start (asts ++ [.literal span ⟨c, none⟩])
          ⟨spelled cs ++ rest, p', false, names⟩ := by
      rw [spelled, List.flatMap_cons, List.append_assoc]
      by_cases hc : c ∈ metaCharacters
      · rw [if_pos (List.contains_iff_mem.mpr hc)]
        exact ⟨_, _, items_primitive _ (by decide) (primitive_escaped hc)⟩
      · have hsub : ∀ d ∈ ['(', ')', '|', '[', '\x7b', '?', '*', '+'], d ∈ metaCharacters := by
          simp [metaCharacters_eq]
        rw [if_neg (mt List.contains_iff_mem.mp hc)]
        exact ⟨_, _, items_primitive _ (mt (hsub c) hc) (primitive_plain hc)⟩
    obtain ⟨span, p₁, hitem⟩ := hitem
    obtain ⟨more, p', hmore, hrest⟩ := @ih p₁ (asts ++ [.literal span ⟨c, none⟩])
    refine ⟨.literal span ⟨c, none⟩ :: more, p', .cons (Ast.reads_literal span c) hmore, ?_⟩
    have hfuel : (c :: cs).length + fuel = cs.length + fuel + 1 := Nat.succ_add _ _
    rw [hfuel, hitem, hrest, List.append_assoc]
    rfl

/-- The set of digits is one item. -/
theorem items_set (fuel : Nat) (rest : List Char) :
    ∃ span set p', (Ast.bracketed span false set).Reads 1 digitNode ∧
      items (fuel + 1) group? first branches start asts
          ⟨'[' :: '0' :: '-' :: '9' :: ']' :: rest, p, false, names⟩ =
        items fuel group? first branches start (asts ++ [.bracketed span false set])
          ⟨rest, p', false, names⟩ := by
  have hset : ∃ s₁ s₂ s₃ s₄ p', bracketed (rest.length + 6)
        ⟨'[' :: '0' :: '-' :: '9' :: ']' :: rest, p, false, names⟩ =
      .ok (.bracketed s₁ false (.range s₂ (⟨'0', none⟩, s₃) (⟨'9', none⟩, s₄)),
        ⟨rest, p', false, names⟩) :=
    ⟨_, _, _, _, _, rfl⟩
  obtain ⟨s₁, s₂, s₃, s₄, p', hset⟩ := hset
  refine ⟨s₁, _, p', Ast.reads_bracketed s₁ s₂ s₃ s₄, ?_⟩
  conv =>
    lhs
    unfold items
  simp [hset]

/-- What stands in the group for the number. -/
theorem items_repeated (fuel : Nat) (rest : List Char) (span : Span) :
    ∃ ast p', ast.Reads 2 (.repeats 1 none true digitNode) ∧
      items (fuel + 3) (some span) p [] p []
          ⟨'[' :: '0' :: '-' :: '9' :: ']' :: '+' :: ')' :: rest, p, false, names⟩ =
        .ok (ast, ⟨')' :: rest, p', false, names⟩) := by
  obtain ⟨s, set, p₁, hreads, hset⟩ :=
    @items_set (some span) p p p [] [] names (fuel + 2) ('+' :: ')' :: rest)
  refine ⟨_, p₁.next '+', hreads.repetition ⟨s.start, p₁.next '+'⟩ 1 none, ?_⟩
  rw [hset]
  rfl

/-- The group for the number is one item. -/
theorem items_number (fuel : Nat) (rest : List Char) :
    ∃ ast p', ast.Reads 3 digitsNode ∧
      items (fuel + 4) group? first branches start asts
          ⟨"([0-9]+)".toList ++ rest, p, false, names⟩ =
        items (fuel + 3) group? first branches start (asts ++ [ast]) ⟨rest, p', false, names⟩ := by
  obtain ⟨ast, p₁, hreads, hinner⟩ :=
    @items_repeated (p.next '(') names fuel rest ⟨p, p.next '('⟩
  have hopening : opening ⟨'(' :: '[' :: '0' :: '-' :: '9' :: ']' :: '+' :: ')' :: rest, p, false,
      names⟩ = .ok (.group ⟨p, p.next '('⟩ .capture,
        ⟨'[' :: '0' :: '-' :: '9' :: ']' :: '+' :: ')' :: rest, p.next '(', false, names⟩) := rfl
  have htext : "([0-9]+)".toList ++ rest =
      '(' :: '[' :: '0' :: '-' :: '9' :: ']' :: '+' :: ')' :: rest := rfl
  refine ⟨_, p₁.next ')', hreads.group ⟨p, p₁.next ')'⟩, ?_⟩
  rw [htext]
  -- Only the left side is unfolded: the right side has the same function with less fuel.
  conv =>
    lhs
    unfold items
  simp [hopening, hinner]

/-- Items in a row are one tree, which does what they do one behind the other. -/
theorem sequence_reads {height : Nat} {nodes : List Node}
    (h : List.Forall₂ (Ast.Reads height) asts nodes) (hne : asts ≠ []) (s : Input) :
    ∃ ast node, sequence start asts s = .ok (ast, s) ∧ ast.Reads (height + 1) node ∧
      node.emitter = Node.emitSeq nodes ∧
      ∀ backward, node.size backward = Node.sizeOfAll backward nodes := by
  cases h with
  | nil => exact absurd rfl hne
  | @cons ast node _ _ hast htail =>
    -- A single item stands for itself; only several are put together.
    cases htail with
    | nil =>
      refine ⟨ast, node, rfl, hast.mono (Nat.le_succ height), ?_, fun backward => ?_⟩
      · rw [Node.emitSeq, Node.emitSeq]
        rfl
      · rw [Node.sizeOfAll, Node.sizeOfAll, Nat.add_zero]
    | cons hsecond hmore =>
      refine ⟨_, _, rfl, Ast.reads_concat (.cons hast (.cons hsecond hmore)) _, ?_, fun _ => ?_⟩
      · rw [Node.emitter]
      · rw [Node.size]

/-- At the end of the pattern its items are put together. -/
theorem items_end {ast : Ast} {s : Input} (fuel : Nat)
    (h : sequence start asts ⟨[], p, false, names⟩ = .ok (ast, s)) :
    items (fuel + 1) none first [] start asts ⟨[], p, false, names⟩ = .ok (ast, s) := by
  conv =>
    lhs
    unfold items
  simp [h, alternatives]

end Reader

end HistoryAudit.Regex

namespace HistoryAudit.Pattern.Template

open Regex (Ast Node charNode digitNode digitsNode)
open Regex.Reader (spelled length_spelled items_text items_number items_end sequence_reads)

/-- What the expression of the template is made of. -/
def nodes (t : Template) : List Node :=
  t.before.toList.map charNode ++ digitsNode :: t.after.toList.map charNode

theorem toList_source (t : Template) :
    t.source.toList =
      spelled t.before.toList ++ ("([0-9]+)".toList ++ spelled t.after.toList) := by
  simp only [source, escape, String.toList_append, String.toList_ofList, List.append_assoc]
  rfl

/-- The expression is read, as what it is made of. -/
theorem exists_node (t : Template) :
    ∃ ast node, Ast.ofPattern t.source = .ok ast ∧ Node.ofAst ast = .ok node ∧
      node.emitter = Node.emitSeq t.nodes ∧
      ∀ backward, node.size backward = Node.sizeOfAll backward t.nodes := by
  -- Each item takes a character at least, and so the fuel is enough.
  obtain ⟨k, hk⟩ : ∃ k, t.source.toList.length + 1 =
      t.before.toList.length + (t.after.toList.length + k + 4) := by
    have hbefore := length_spelled t.before.toList
    have hafter := length_spelled t.after.toList
    have hnumber : "([0-9]+)".toList.length = 8 := rfl
    refine ⟨t.source.toList.length - (t.before.toList.length + t.after.toList.length + 3), ?_⟩
    rw [toList_source, List.length_append, List.length_append, hnumber]
    omega
  obtain ⟨front, p₁, hfront, hread₁⟩ := @items_text none {} {} {} [] [] [] t.before.toList
    ("([0-9]+)".toList ++ spelled t.after.toList) (t.after.toList.length + k + 4)
  obtain ⟨number, p₂, hnumber, hread₂⟩ := @items_number none {} {} p₁ [] front []
    (t.after.toList.length + k) (spelled t.after.toList)
  obtain ⟨back, p₃, hback, hread₃⟩ :=
    @items_text none {} {} p₂ [] (front ++ [number]) [] t.after.toList [] (k + 3)
  have hitems : List.Forall₂ (Ast.Reads 3) (front ++ [number] ++ back) t.nodes := by
    have hlow : ∀ {asts : List Ast} {cs : List Char},
        List.Forall₂ (Ast.Reads 0) asts (cs.map charNode) →
        List.Forall₂ (Ast.Reads 3) asts (cs.map charNode) :=
      fun h => h.imp fun _ _ hast => hast.mono (Nat.zero_le 3)
    rw [nodes, List.append_assoc]
    exact List.rel_append (hlow hfront) (.cons hnumber (hlow hback))
  have hne : front ++ [number] ++ back ≠ [] := by simp
  obtain ⟨ast, node, hsequence, hreads, hemitter, hsize⟩ :=
    @sequence_reads {} _ 3 t.nodes hitems hne ⟨[], p₃, false, []⟩
  have hread : (Regex.Reader.items (t.source.toList.length + 1) none {} [] {} []).run
      ⟨t.source.toList, {}, false, []⟩ = .ok (ast, ⟨[], p₃, false, []⟩) := by
    rw [hk, toList_source, StateT.run, hread₁, List.nil_append, hread₂]
    rw [List.append_nil] at hread₃
    exact hread₃.trans (items_end (k + 2) hsequence)
  refine ⟨ast, node, ?_, ?_, hemitter, hsize⟩
  · rw [Ast.ofPattern]
    simp only [hread, hreads.low 0 (by decide)]
  · rw [Node.ofAst, hreads.meaning]
    rfl

end HistoryAudit.Pattern.Template
