/-
  HistoryAudit.Regex.Reading

  Patterns from text. `Ast.ofPattern` gives every pattern its tree, or the first
  fault in it: alternatives of sequences of items, an item being a group, a set,
  a character or an assertion with repetitions behind it.
-/
import HistoryAudit.Regex.Bracket
import HistoryAudit.Text.Unicode.Category
import HistoryAudit.Text.Unicode.Property

namespace HistoryAudit.Regex

def inSet (set? : Option Text.CodeSet) (c : Char) : Bool := (set?.getD []).holds c.toNat

def isNameChar (first : Bool) (c : Char) : Bool :=
  let letter := c == '_' || c.isAlpha ||
    (c.toNat ≥ 0x80 && inSet (Text.Unicode.property? "alpha") c)
  if first then letter
  else letter || c == '.' || c == '[' || c == ']' || c.isDigit ||
    (c.toNat ≥ 0x80 && inSet (Text.Unicode.category? "n") c)

def Flag.ofChar? : Char → Option Flag
  | 'i' => some .ignoreCase
  | 'm' => some .multiLine
  | 's' => some .dotNewLine
  | 'U' => some .swapGreed
  | 'u' => some .unicode
  | 'R' => some .crlf
  | 'x' => some .ignoreSpace
  | _ => none

namespace Reader

/-- The name of a group, up to `>`. -/
def groupName : Reader Unit := do
  if ← atEnd then refuse .groupNameEof (← noSpan)
  let start ← place
  match ← char? with
  | some c => if c ≠ '>' ∧ !isNameChar true c then refuse .groupNameInvalid (← charSpan)
  | none => pure ()
  let name ← takeWhile (isNameChar false) bump
  if ← atEnd then refuse .groupNameEof (← noSpan)
  if !(← at? '>') then refuse .groupNameInvalid (← charSpan)
  let stop ← place
  bump
  if name.isEmpty then refuse .groupNameEmpty ⟨start, start⟩
  let text := String.ofList name
  match (← get).names.find? (·.1 == text) with
  | some (_, earlier) => refuse .groupNameDuplicate ⟨start, stop⟩ earlier
  | none => modify fun s => { s with names := (text, ⟨start, stop⟩) :: s.names }

/-- Flags up to `:` or `)`, behind the flags `items`. -/
def flagList : (fuel : Nat) → FlagList → Reader FlagList
  | 0, items => return items
  | fuel + 1, items => do
    match ← char? with
    | none => refuse .flagEof (← noSpan)
    | some c =>
      if c = ':' ∨ c = ')' then
        match items.getLast? with
        | some (span, .negation) => refuse .flagDanglingNegation span
        | _ => return items
      let span ← charSpan
      let item ←
        if c = '-' then pure FlagItem.negation
        else
          match Flag.ofChar? c with
          | some f => pure (FlagItem.flag f)
          | none => refuse .flagUnrecognized span
      match items.find? (·.2 == item) with
      | some (earlier, _) =>
        refuse (if c = '-' then .flagRepeatedNegation else .flagDuplicate) span earlier
      | none =>
        bump
        if ← atEnd then refuse .flagEof (← noSpan)
        flagList fuel (items ++ [(span, item)])

/-- What an opening parenthesis begins. -/
inductive Opening where
  /-- Flags for what follows, already closed. -/
  | flags (span : Span) (items : FlagList)
  /-- A group; `span` is its parenthesis. -/
  | group (span : Span) (kind : GroupKind)

/-- An opening parenthesis, the current character, and what says of which kind the group is. -/
def opening : Reader Opening := do
  let span ← charSpan
  bump
  bumpSpace
  for look in ["?=", "?!", "?<=", "?<!"] do
    if ← bumpIf look then refuse .lookAround (← spanFrom span.start)
  let inner ← noSpan
  let named ← if ← bumpIf "?P<" then pure true else bumpIf "?<"
  if named then
    groupName
    return .group span .capture
  else if ← bumpIf "?" then
    if ← atEnd then refuse .groupUnclosed span
    let items ← flagList ((← get).rest.length + 1) []
    let last ← char?
    bump
    if last == some ')' then
      if items.isEmpty then refuse .repetitionMissing inner
      return .flags (← spanFrom span.start) items
    return .group span (.plain items)
  else return .group span .capture

/-- A decimal number with blanks around it, or why there is none; either way it is stepped over. -/
def decimal : Reader (Except Fault Nat) := do
  discard (takeWhile Text.isBlank bump)
  let start ← place
  let digits ← takeWhile Char.isDigit (discard next)
  let span ← spanFrom start
  discard (takeWhile Text.isBlank (discard next))
  if digits.isEmpty then return .error ⟨.countEmpty, span, none⟩
  let n := digits.foldl (fun n c => n * 10 + (c.toNat - '0'.toNat)) 0
  if n < Nat.pow 2 32 then return .ok n else return .error ⟨.decimalInvalid, span, none⟩

/-- What a repetition repeats: the last item, if it can be repeated. -/
def repeatable (asts : List Ast) : Reader (List Ast × Ast) := do
  match asts.getLast? with
  | none | some (.empty _) | some (.flags ..) => refuse .repetitionMissing (← noSpan)
  | some ast => return (asts.dropLast, ast)

/-- A repetition of the last item by `?`, `*` or `+`, which is the current character. -/
def uncounted (c : Char) (asts : List Ast) : Reader (List Ast) := do
  let (before, ast) ← repeatable asts
  bump
  let lazy ← at? '?'
  if lazy then bump
  let span ← spanFrom ast.span.start
  let least := if c = '+' then 1 else 0
  let most? := if c = '?' then some 1 else none
  return before ++ [.repetition span least most? (!lazy) ast]

/-- The bounds between braces, behind the least number, which may be missing or too large. That
counts only once the braces are known to hold more than a comma. -/
def bounds (start : Place) (least : Except Fault Nat) : Reader (Nat × Option Nat) := do
  if ← at? ',' then
    if !(← next) then refuse .countUnclosed (← spanFrom start)
    if ← at? '}' then return (← liftM least, none)
    else
      let least ← liftM least
      return (least, some (← liftM (← decimal)))
  else
    let n ← liftM least
    return (n, some n)

/-- A repetition of the last item by `{`, which is the current character. -/
def counted (asts : List Ast) : Reader (List Ast) := do
  let start ← place
  let (before, ast) ← repeatable asts
  if !(← next) then refuse .countUnclosed (← spanFrom start)
  let first ← decimal
  if ← atEnd then refuse .countUnclosed (← spanFrom start)
  let (least, most?) ← bounds start first
  if !(← at? '}') then refuse .countUnclosed (← spanFrom start)
  let lazy := (← next) && (← at? '?')
  if lazy then bump
  if most?.any (· < least) then refuse .countInvalid (← spanFrom start)
  let span ← spanFrom ast.span.start
  return before ++ [.repetition span least most? (!lazy) ast]

/-- An item that consists of one character or a backslash and what follows it. -/
def primitive (c : Char) : Reader Ast := do
  if c = '\\' then escape
  else
    let span ← charSpan
    bump
    match c with
    | '.' => return .dot span
    | '^' => return .assertion span .startLine
    | '$' => return .assertion span .endLine
    | _ => return .literal span ⟨c, none⟩

def sequence (start : Place) (asts : List Ast) : Reader Ast := do
  match asts with
  | [] => return .empty (← spanFrom start)
  | [ast] => return ast
  | _ => return .concat (← spanFrom start) asts

def alternatives (branches : List Ast) (first : Place) (last : Ast) : Reader Ast := do
  if branches.isEmpty then return last
  return .alternation (← spanFrom first) (branches ++ [last])

/-- Reads up to the closing parenthesis of the group that `group?` opened, or to the end of the
pattern. `branches` are the alternatives so far, of which the first began at `first`; `asts` are
the items of the current one, which began at `start`. `fuel` is more than the characters left. -/
def items : (fuel : Nat) → (group? : Option Span) → (first : Place) → (branches : List Ast) →
    (start : Place) → (asts : List Ast) → Reader Ast
  | 0, _, _, _, _, _ => return .empty (← noSpan)
  | fuel + 1, group?, first, branches, start, asts => do
    bumpSpace
    match ← char? with
    | none =>
      match group? with
      | some span => refuse .groupUnclosed span
      | none => alternatives branches first (← sequence start asts)
    | some '(' =>
      let outer := (← get).ignoreSpace
      match ← opening with
      | .flags span list =>
        let on := (list.state? .ignoreSpace).getD outer
        modify ({ · with ignoreSpace := on })
        items fuel group? first branches start (asts ++ [.flags span list])
      | .group span kind =>
        let own :=
          match kind with
          | .plain list => list.state? .ignoreSpace
          | .capture => none
        modify ({ · with ignoreSpace := own.getD outer })
        let here ← place
        let ast ← items fuel (some span) here [] here []
        modify ({ · with ignoreSpace := outer })
        bump
        let group := .group (← spanFrom span.start) kind ast
        items fuel group? first branches start (asts ++ [group])
    | some ')' =>
      if group?.isNone then refuse .groupUnopened (← charSpan)
      alternatives branches first (← sequence start asts)
    | some '|' =>
      let branch ← sequence start asts
      bump
      items fuel group? first (branches ++ [branch]) (← place) []
    | some '[' =>
      match ← bracketed ((← get).rest.length + 1) with
      | .bracketed span negated set =>
        items fuel group? first branches start (asts ++ [.bracketed span negated set])
      | set => items fuel group? first branches start (asts ++ [.bracketed set.span false set])
    | some '{' => items fuel group? first branches start (← counted asts)
    | some c =>
      if c = '?' ∨ c = '*' ∨ c = '+' then
        items fuel group? first branches start (← uncounted c asts)
      else items fuel group? first branches start (asts ++ [← primitive c])

end Reader

def Ast.ofPattern (pattern : String) : Except Fault Ast :=
  let cs := pattern.toList
  match (Reader.items (cs.length + 1) none {} [] {} []).run { rest := cs } with
  | .error e => .error e
  | .ok (ast, _) =>
    match ast.deepest? 0 with
    | some fault => .error fault
    | none => .ok ast

end HistoryAudit.Regex
