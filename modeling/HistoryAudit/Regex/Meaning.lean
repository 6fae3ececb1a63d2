/-
  HistoryAudit.Regex.Meaning

  The meaning of a pattern under its flags. Flags last to the end of the group
  that they stand in. Sets are closed under case before they are negated or
  compared.
-/
import HistoryAudit.Regex.Node

namespace HistoryAudit.Regex

open Text (CodeSet)

/-- The flags in force. -/
structure Flags where
  ignoreCase : Bool := false
  multiLine : Bool := false
  dotNewLine : Bool := false
  swapGreed : Bool := false
  unicode : Bool := true
  crlf : Bool := false

namespace Flags

/-- The flags behind a list of flags. -/
def set (f : Flags) (items : FlagList) : Flags where
  ignoreCase := (items.state? .ignoreCase).getD f.ignoreCase
  multiLine := (items.state? .multiLine).getD f.multiLine
  dotNewLine := (items.state? .dotNewLine).getD f.dotNewLine
  swapGreed := (items.state? .swapGreed).getD f.swapGreed
  unicode := (items.state? .unicode).getD f.unicode
  crlf := (items.state? .crlf).getD f.crlf

def alphabet (f : Flags) : Alphabet := if f.unicode then .characters else .bytes

def everything (f : Flags) : CodeSet := if f.unicode then CodeSet.characters else [⟨0, 0xff⟩]

/-- The set with what differs from it by case, if case is ignored. -/
def fold (f : Flags) (s : CodeSet) : CodeSet :=
  if !f.ignoreCase then s
  else if f.unicode then Text.Unicode.closeUnderCase s
  else closeUnderAsciiCase s

def negate (f : Flags) (negated : Bool) (s : CodeSet) : CodeSet :=
  if negated then CodeSet.diff f.everything s else s

/-- The byte that a literal stands for outside Unicode. -/
def byte? (f : Flags) (l : Literal) : Option Nat :=
  if f.unicode then none else l.byte?.filter (· > 0x7f)

def code (f : Flags) (l : Literal) (span : Span) : Except Fault Nat :=
  match f.byte? l with
  | some b => .ok b
  | none =>
    if f.unicode ∨ l.char.toNat < 0x80 then .ok l.char.toNat
    else .error ⟨.unicodeNotAllowed, span, none⟩

def perl (f : Flags) (negated : Bool) (kind : PerlClass) : CodeSet :=
  f.negate negated (if f.unicode then kind.characters else kind.bytes)

def named (f : Flags) (span : Span) (negated : Bool) (name : UnicodeName) :
    Except Fault CodeSet :=
  if !f.unicode then .error ⟨.unicodeNotAllowed, span, none⟩
  else
    match name.codes with
    | .ok s => .ok (f.negate negated (f.fold s))
    | .error cause => .error ⟨cause, span, none⟩

def operate (f : Flags) (kind : SetOp) (left right : CodeSet) : CodeSet :=
  let l := f.fold left
  let r := f.fold right
  match kind with
  | .intersection => CodeSet.inter l r
  | .difference => CodeSet.diff l r
  | .symmetricDifference => CodeSet.symmDiff l r

/-- The character, in the alphabet of the pattern. -/
def literal (f : Flags) (l : Literal) : Node :=
  match f.byte? l with
  | some b => .literal [UInt8.ofNat b]
  | none =>
    let n := l.char.toNat
    let folded := f.fold [⟨n, n⟩]
    if folded == [⟨n, n⟩] ∨ (!f.unicode && n ≥ 0x80) then
      .literal (Text.Utf8.encode (String.singleton l.char))
    else .set f.alphabet folded

def dot (f : Flags) : Node :=
  let refused :=
    if f.dotNewLine then []
    else if f.crlf then CodeSet.ofHex "a d"
    else CodeSet.ofHex "a"
  .set f.alphabet (CodeSet.diff f.everything refused)

def look (f : Flags) : Assertion → Look
  | .startLine => if f.multiLine then .startLine f.crlf else .startText
  | .endLine => if f.multiLine then .endLine f.crlf else .endText
  | .startText => .startText
  | .endText => .endText
  | .wordBoundary => .boundary f.alphabet
  | .notWordBoundary => .notBoundary f.alphabet
  | .wordStart => .wordStart f.alphabet
  | .wordEnd => .wordEnd f.alphabet
  | .wordStartHalf => .wordStartHalf f.alphabet
  | .wordEndHalf => .wordEndHalf f.alphabet

end Flags

mutual

def ClassSet.codes (f : Flags) : ClassSet → Except Fault CodeSet
  | .empty _ => .ok []
  | .literal span l => do
    let n ← f.code l span
    return [⟨n, n⟩]
  | .range _ first last => do
    let lo ← f.code first.1 first.2
    let hi ← f.code last.1 last.2
    return CodeSet.ofRanges [⟨lo, hi⟩]
  | .ascii _ negated kind => .ok (f.negate negated (f.fold kind.codes))
  | .perl _ negated kind => .ok (f.perl negated kind)
  | .unicode span negated name => f.named span negated name
  | .bracketed _ negated set => do
    let s ← set.codes f
    return f.negate negated (f.fold s)
  | .union _ items => ClassSet.codesOf f items
  | .op _ kind left right => do
    let l ← left.codes f
    let r ← right.codes f
    return f.operate kind l r

def ClassSet.codesOf (f : Flags) : List ClassSet → Except Fault CodeSet
  | [] => .ok []
  | set :: rest => do
    let s ← set.codes f
    let others ← ClassSet.codesOf f rest
    return s.union others

end

mutual

/-- The meaning of a pattern, and the flags behind it. -/
def Ast.meaning (f : Flags) : Ast → Except Fault (Node × Flags)
  | .empty _ => .ok (.empty, f)
  | .flags _ items => .ok (.empty, f.set items)
  | .literal _ l => .ok (f.literal l, f)
  | .dot _ => .ok (f.dot, f)
  | .assertion _ kind => .ok (.look (f.look kind), f)
  | .perl _ negated kind => .ok (.set f.alphabet (f.perl negated kind), f)
  | .unicode span negated name => do
    let s ← f.named span negated name
    return (.set f.alphabet s, f)
  | .bracketed _ negated set => do
    let s ← set.codes f
    return (.set f.alphabet (f.negate negated (f.fold s)), f)
  | .repetition _ least most? greedy ast => do
    let (node, f) ← ast.meaning f
    return (.repeats least most? (greedy != f.swapGreed) node, f)
  | .group _ kind ast =>
    match kind with
    | .capture => do
      let (node, _) ← ast.meaning f
      return (.capture node, f)
    | .plain items => do
      let (node, _) ← ast.meaning (f.set items)
      return (node, f)
  | .alternation _ asts => do
    let (nodes, f) ← Ast.meanings f asts
    return (.alt nodes, f)
  | .concat _ asts => do
    let (nodes, f) ← Ast.meanings f asts
    return (.cat nodes, f)

def Ast.meanings (f : Flags) : List Ast → Except Fault (List Node × Flags)
  | [] => .ok ([], f)
  | ast :: rest => do
    let (node, f) ← ast.meaning f
    let (nodes, f) ← Ast.meanings f rest
    return (node :: nodes, f)

end

/-- The meaning of a pattern that starts without flags. -/
def Node.ofAst (ast : Ast) : Except Fault Node := do
  let (node, _) ← ast.meaning {}
  return node

end HistoryAudit.Regex
