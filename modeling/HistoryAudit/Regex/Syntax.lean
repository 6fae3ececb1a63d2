/-
  HistoryAudit.Regex.Syntax

  Patterns as they are written, every part with its place.
-/
import HistoryAudit.Regex.Fault

namespace HistoryAudit.Regex

inductive Flag where
  | ignoreCase
  | multiLine
  | dotNewLine
  | swapGreed
  | unicode
  | crlf
  | ignoreSpace
  deriving DecidableEq

inductive FlagItem where
  | negation
  | flag (f : Flag)
  deriving DecidableEq

abbrev FlagList := List (Span × FlagItem)

/-- What a list of flags says about one of them: the items behind the negation switch off. -/
def FlagList.state? (items : FlagList) (f : Flag) : Option Bool :=
  go true items
where
  /-- The same with `on` for the items that follow. -/
  go (on : Bool) : FlagList → Option Bool
    | [] => none
    | (_, .negation) :: rest => go false rest
    | (_, .flag g) :: rest => if g = f then some on else go on rest

/-- A character, and its value as a byte if it was written with two hexadecimal digits. -/
structure Literal where
  char : Char
  byte? : Option Nat := none
  deriving DecidableEq

/-- The places between characters at which a pattern may hold. -/
inductive Assertion where
  | startLine
  | endLine
  | startText
  | endText
  | wordBoundary
  | notWordBoundary
  | wordStart
  | wordEnd
  | wordStartHalf
  | wordEndHalf
  deriving DecidableEq

inductive PerlClass where
  | digit
  | space
  | word
  deriving DecidableEq

inductive UnicodeName where
  | oneLetter (c : Char)
  | named (name : String)
  | valued (name value : String)
  deriving DecidableEq

/-- The classes between `[:` and `:]`. -/
inductive AsciiClass where
  | alnum
  | alpha
  | ascii
  | blank
  | cntrl
  | digit
  | graph
  | lower
  | print
  | punct
  | space
  | upper
  | word
  | xdigit
  deriving DecidableEq

def AsciiClass.ofName? : String → Option AsciiClass
  | "alnum" => some .alnum
  | "alpha" => some .alpha
  | "ascii" => some .ascii
  | "blank" => some .blank
  | "cntrl" => some .cntrl
  | "digit" => some .digit
  | "graph" => some .graph
  | "lower" => some .lower
  | "print" => some .print
  | "punct" => some .punct
  | "space" => some .space
  | "upper" => some .upper
  | "word" => some .word
  | "xdigit" => some .xdigit
  | _ => none

inductive SetOp where
  | intersection
  | difference
  | symmetricDifference
  deriving DecidableEq

inductive ClassSet where
  | empty (span : Span)
  | literal (span : Span) (l : Literal)
  | range (span : Span) (first last : Literal × Span)
  | ascii (span : Span) (negated : Bool) (kind : AsciiClass)
  | perl (span : Span) (negated : Bool) (kind : PerlClass)
  | unicode (span : Span) (negated : Bool) (name : UnicodeName)
  | bracketed (span : Span) (negated : Bool) (set : ClassSet)
  | union (span : Span) (items : List ClassSet)
  | op (span : Span) (kind : SetOp) (left right : ClassSet)
  deriving Inhabited

def ClassSet.span : ClassSet → Span
  | .empty s => s
  | .literal s _ => s
  | .range s _ _ => s
  | .ascii s _ _ => s
  | .perl s _ _ => s
  | .unicode s _ _ => s
  | .bracketed s _ _ => s
  | .union s _ => s
  | .op s _ _ _ => s

/-- What a group is for; whether it captures plays no part. -/
inductive GroupKind where
  | capture
  | plain (flags : FlagList)
  deriving DecidableEq

inductive Ast where
  | empty (span : Span)
  | flags (span : Span) (items : FlagList)
  | literal (span : Span) (l : Literal)
  | dot (span : Span)
  | assertion (span : Span) (kind : Assertion)
  | perl (span : Span) (negated : Bool) (kind : PerlClass)
  | unicode (span : Span) (negated : Bool) (name : UnicodeName)
  | bracketed (span : Span) (negated : Bool) (set : ClassSet)
  | repetition (span : Span) (least : Nat) (most? : Option Nat) (greedy : Bool) (ast : Ast)
  | group (span : Span) (kind : GroupKind) (ast : Ast)
  | alternation (span : Span) (asts : List Ast)
  | concat (span : Span) (asts : List Ast)
  deriving Inhabited

def Ast.span : Ast → Span
  | .empty s => s
  | .flags s _ => s
  | .literal s _ => s
  | .dot s => s
  | .assertion s _ => s
  | .perl s _ _ => s
  | .unicode s _ _ => s
  | .bracketed s _ _ => s
  | .repetition s _ _ _ _ => s
  | .group s _ _ => s
  | .alternation s _ => s
  | .concat s _ => s

/-- So many groups, classes and the like may be inside each other. -/
def nestLimit : Nat := 250

def tooDeep? (depth : Nat) (s : Span) : Option Fault :=
  if depth > nestLimit then some ⟨.nestLimit nestLimit, s, none⟩ else none

mutual

/-- The first part that is too deep, `depth` counting the parts around this one. -/
def ClassSet.deepest? (depth : Nat) : ClassSet → Option Fault
  | .bracketed s _ set => (tooDeep? (depth + 1) s).or (set.deepest? (depth + 1))
  | .union s items => (tooDeep? (depth + 1) s).or (ClassSet.deepestOf? (depth + 1) items)
  | .op s _ l r =>
    (tooDeep? (depth + 1) s).or ((l.deepest? (depth + 1)).or (r.deepest? (depth + 1)))
  | _ => none

def ClassSet.deepestOf? (depth : Nat) : List ClassSet → Option Fault
  | [] => none
  | set :: rest => (set.deepest? depth).or (ClassSet.deepestOf? depth rest)

end

mutual

/-- The first part that is too deep, `depth` counting the parts around this one. -/
def Ast.deepest? (depth : Nat) : Ast → Option Fault
  | .bracketed s _ set => (tooDeep? (depth + 1) s).or (set.deepest? (depth + 1))
  | .repetition s _ _ _ a => (tooDeep? (depth + 1) s).or (a.deepest? (depth + 1))
  | .group s _ a => (tooDeep? (depth + 1) s).or (a.deepest? (depth + 1))
  | .alternation s as => (tooDeep? (depth + 1) s).or (Ast.deepestOf? (depth + 1) as)
  | .concat s as => (tooDeep? (depth + 1) s).or (Ast.deepestOf? (depth + 1) as)
  | _ => none

def Ast.deepestOf? (depth : Nat) : List Ast → Option Fault
  | [] => none
  | a :: rest => (a.deepest? depth).or (Ast.deepestOf? depth rest)

end

end HistoryAudit.Regex
