/-
  HistoryAudit.Regex.Bracket

  Sets of characters between brackets: characters, ranges, classes, nested sets,
  and the operators `&&`, `--` and `~~`, which bind to the left.
-/
import HistoryAudit.Regex.Escape

namespace HistoryAudit.Regex

/-- Items side by side, and the part of the pattern that they take. -/
structure Items where
  span : Span
  items : List ClassSet := []

def Items.push (u : Items) (item : ClassSet) : Items :=
  let start := if u.items.isEmpty then item.span.start else u.span.start
  ⟨⟨start, item.span.stop⟩, u.items ++ [item]⟩

def Items.toSet (u : Items) : ClassSet :=
  match u.items with
  | [] => .empty u.span
  | [item] => item
  | items => .union u.span items

/-- A set, joined to what stands before it and the operator between them. -/
def applyOp (left? : Option (SetOp × ClassSet)) (right : ClassSet) : ClassSet :=
  match left? with
  | none => right
  | some (kind, left) => .op ⟨left.span.start, right.span.stop⟩ kind left right

/-- The operator that starts with two of a character. -/
def setOp? : Char → Option SetOp
  | '&' => some .intersection
  | '-' => some .difference
  | '~' => some .symmetricDifference
  | _ => none

namespace Reader

/-- One character of a set, or what a backslash stands for. -/
def classPrimitive : Reader Ast := do
  if ← at? '\\' then escape
  else
    let span ← charSpan
    let c := (← char?).getD ' '
    bump
    return .literal span ⟨c, none⟩

def toClassItem : Ast → Reader ClassSet
  | .literal s l => return .literal s l
  | .perl s n k => return .perl s n k
  | .unicode s n k => return .unicode s n k
  | a => refuse .classEscapeInvalid a.span

def toRangeEnd : Ast → Reader (Literal × Span)
  | .literal s l => return (l, s)
  | a => refuse .classRangeLiteral a.span

/-- A character, a class or a range; `opening` is the part to blame for a set without end. -/
def classRange (opening : Span) : Reader ClassSet := do
  let first ← classPrimitive
  bumpSpace
  if ← atEnd then refuse .classUnclosed opening
  let behind ← peekSpace?
  if !(← at? '-') || behind == some ']' || behind == some '-' then toClassItem first
  else
    if !(← next) then refuse .classUnclosed opening
    let last ← classPrimitive
    let span : Span := ⟨first.span.start, last.span.stop⟩
    let lo ← toRangeEnd first
    let hi ← toRangeEnd last
    if hi.1.char < lo.1.char then refuse .classRangeInvalid span
    return .range span lo hi

/-- A class between `[:` and `:]`, if one is here; the current character is the bracket. -/
def asciiClass? : Reader (Option ClassSet) := do
  let before ← get
  let start ← place
  bump
  if !(← at? ':') then
    set before
    return none
  bump
  let negated ← bumpIf "^"
  let name ← takeWhile (· ≠ ':') bump
  let closed ← bumpIf ":]"
  match AsciiClass.ofName? (String.ofList name), closed with
  | some kind, true => return some (.ascii (← spanFrom start) negated kind)
  | _, _ =>
    set before
    return none

/-- The hyphens at the start of a set, which stand for themselves. -/
def leadingHyphens (start : Place) : (fuel : Nat) → Items → Reader Items
  | 0, u => return u
  | fuel + 1, u => do
    if !(← at? '-') then return u
    let u := u.push (.literal (← charSpan) ⟨'-', none⟩)
    if !(← next) then refuse .classUnclosed ⟨start, start⟩
    leadingHyphens start fuel u

/-- The opening of a set: is it negated, which characters stand for themselves at the start, and
which part is to blame if it has no end? -/
def classOpening : Reader (Bool × Items × Span) := do
  let start ← place
  if !(← next) then refuse .classUnclosed (← spanFrom start)
  let negated ← at? '^'
  if negated then
    if !(← next) then refuse .classUnclosed (← spanFrom start)
  let u ← leadingHyphens start (← get).rest.length ⟨← noSpan, []⟩
  if u.items.isEmpty && (← at? ']') then
    let u := u.push (.literal (← charSpan) ⟨']', none⟩)
    if !(← next) then refuse .classUnclosed (← spanFrom start)
    return (negated, u, ← spanFrom start)
  return (negated, u, ← spanFrom start)

def operator? : Reader (Option SetOp) := do
  let c ← char?
  if c == (← peek?) then
    match c.bind setOp? with
    | some kind =>
      bump
      bump
      return some kind
    | none => return none
  return none

mutual

/-- A set with its brackets, the opening one being the current character; `fuel` is at least the
number of characters left. -/
def bracketed : (fuel : Nat) → Reader ClassSet
  | 0 => do refuse .classUnclosed (← noSpan)
  | fuel + 1 => do
    let start ← place
    let (negated, items, opening) ← classOpening
    let set ← classItems fuel opening none items
    bump
    return .bracketed (← spanFrom start) negated set

/-- The items up to the closing bracket, behind the items `u`. -/
def classItems : (fuel : Nat) → (opening : Span) → Option (SetOp × ClassSet) → Items →
    Reader ClassSet
  | 0, opening, _, _ => refuse .classUnclosed opening
  | fuel + 1, opening, left?, u => do
    bumpSpace
    match ← char? with
    | none => refuse .classUnclosed opening
    | some ']' => return applyOp left? u.toSet
    | some '[' =>
      match ← asciiClass? with
      | some item => classItems fuel opening left? (u.push item)
      | none =>
        let item ← bracketed fuel
        classItems fuel opening left? (u.push item)
    | some _ =>
      match ← operator? with
      | some kind => classItems fuel opening (some (kind, applyOp left? u.toSet)) ⟨← noSpan, []⟩
      | none =>
        let item ← classRange opening
        classItems fuel opening left? (u.push item)

end

end Reader

end HistoryAudit.Regex
