/-
  HistoryAudit.Yaml.Node

  A document: its nodes, and those that its aliases stand for.
-/
import HistoryAudit.Yaml.Lexer

namespace HistoryAudit.Yaml

inductive Node where
  | scalar (tag? : Option Tag) (plain : Bool) (text : List Char)
  | sequence (tag? : Option Tag) (items : List Node)
  | mapping (tag? : Option Tag) (entries : List (Node × Node))
  /-- The node under a number, which an anchor gave it. -/
  | alias (number : Nat)

structure Document where
  root : Node
  anchored : List (Nat × Node)
  /-- The number of nodes, where a collection counts twice, for its beginning and its end. -/
  size : Nat

structure Reading where
  tokens : List Token
  /-- The beginnings of names that handles stand for. -/
  handles : List (List Char × List UInt8)
  names : List (List Char × Nat) := []
  anchored : List (Nat × Node) := []
  size : Nat := 0

/-- A step in the reading of a document. -/
abbrev Read := StateT Reading Option

namespace Read

def peek : Read (Option Token) := do
  return (← get).tokens.head?

def advance : Read Unit :=
  modify fun r => { r with tokens := r.tokens.tail }

/-- Goes on if the next token passes the test, and tells whether it did. -/
def accept (test : Token → Bool) : Read Bool := do
  if (← peek).any test then
    advance
    return true
  else return false

def resolve (tag : WrittenTag) : Read Tag := do
  if tag.handle.isEmpty then return .ofName tag.suffix
  else
    let (_, beginning) ← ((← get).handles.find? (·.1 == tag.handle) : Option _)
    return .ofName (beginning ++ tag.suffix)

def nameNode (name : List Char) : Read Nat := do
  let number := (← get).names.length
  modify fun r => { r with names := (name, number) :: r.names }
  return number

/-- What stands before a node: an anchor and a tag, in any order. -/
def properties : Read (Option (List Char) × Option Tag) := do
  match ← peek with
  | some (.anchor name) =>
    advance
    match ← peek with
    | some (.tag tag) =>
      advance
      return (some name, some (← resolve tag))
    | _ => return (some name, none)
  | some (.tag tag) =>
    advance
    let tag ← resolve tag
    match ← peek with
    | some (.anchor name) =>
      advance
      return (some name, some tag)
    | _ => return (none, some tag)
  | _ => return (none, none)

def count (size : Nat) : Read Unit :=
  modify fun r => { r with size := r.size + size }

/-- An empty scalar, which stands where nothing is written. -/
def empty : Read Node := do
  count 1
  return .scalar none true []

end Read

/-- Is it a token behind which a key or its value is empty, on lines of their own? -/
def Token.endsEntry : Token → Bool
  | .key | .value | .blockEnd => true
  | _ => false

/-- Is it a token behind which nothing is left of an item in a sequence in brackets? -/
def Token.endsItem : Token → Bool
  | .flowEntry | .flowSequenceEnd => true
  | _ => false

/-- Is it a token behind which nothing is left of an entry in a mapping in brackets? -/
def Token.endsPair : Token → Bool
  | .flowEntry | .flowMappingEnd => true
  | _ => false

def Token.isValue : Token → Bool
  | .value => true
  | _ => false

def Token.isKey : Token → Bool
  | .key => true
  | _ => false

def Token.isBlockEntry : Token → Bool
  | .blockEntry => true
  | _ => false

namespace Node

open Read

mutual

/-- A node. Within `block`, a collection may stand on lines of its own, and the items of an
`indentless` one may stand in the column of the key before it. All of this is bounded by `fuel`,
which is more than the tokens left. -/
def read (block indentless : Bool) : (fuel : Nat) → Read Node
  | 0 => failure
  | fuel + 1 => do
    match ← peek with
    | some (.alias name) =>
      advance
      let (_, number) ← ((← get).names.find? (·.1 == name) : Option _)
      count 1
      return .alias number
    | _ =>
      let (name?, tag?) ← properties
      -- The name is known from here on, so a node may contain itself.
      let number? ← name?.mapM nameNode
      let node ← content block indentless (name?.isSome || tag?.isSome) tag? fuel
      if let some number := number? then
        modify fun r => { r with anchored := (number, node) :: r.anchored }
      return node

/-- What stands behind the anchor and the tag. If there are any, it may be empty. -/
def content (block indentless optional : Bool) (tag? : Option Tag) : (fuel : Nat) → Read Node
  | 0 => failure
  | fuel + 1 => do
    match ← peek with
    | some .blockEntry =>
      if indentless then
        return .sequence tag? (← alignedItems fuel)
      else missing
    | some (.scalar plain text) =>
      advance
      count 1
      return .scalar (tag?.filter (· != .bare)) plain text
    | some .flowSequence =>
      advance
      return .sequence tag? (← flowItems true fuel)
    | some .flowMapping =>
      advance
      return .mapping tag? (← flowEntries true fuel)
    | some .blockSequence =>
      if block then
        advance
        return .sequence tag? (← blockItems fuel)
      else missing
    | some .blockMapping =>
      if block then
        advance
        return .mapping tag? (← blockEntries fuel)
      else missing
    | _ => missing
where
  missing : Read Node := do
    if optional then
      count 1
      return .scalar tag? true []
    else failure

def blockItems : (fuel : Nat) → Read (List Node)
  | 0 => failure
  | fuel + 1 => do
    match ← peek with
    | some .blockEntry =>
      advance
      let item ← match ← peek with
        | some .blockEntry | some .blockEnd => empty
        | _ => read true false fuel
      return item :: (← blockItems fuel)
    | some .blockEnd =>
      advance
      count 2
      return []
    | _ => failure

/-- The items in the column of a key. -/
def alignedItems : (fuel : Nat) → Read (List Node)
  | 0 => failure
  | fuel + 1 => do
    if ← accept Token.isBlockEntry then
      let next? ← peek
      let item ←
        if next?.any fun t => t.isBlockEntry || t.endsEntry then empty else read true false fuel
      return item :: (← alignedItems fuel)
    else
      count 2
      return []

def blockEntries : (fuel : Nat) → Read (List (Node × Node))
  | 0 => failure
  | fuel + 1 => do
    match ← peek with
    | some .key =>
      advance
      let key ← if (← peek).any Token.endsEntry then empty else read true true fuel
      let value ←
        if ← accept Token.isValue then
          if (← peek).any Token.endsEntry then empty else read true true fuel
        else empty
      return (key, value) :: (← blockEntries fuel)
    | some .blockEnd =>
      advance
      count 2
      return []
    | _ => failure

/-- The items in brackets; behind the first one a comma comes before each. -/
def flowItems (first : Bool) : (fuel : Nat) → Read (List Node)
  | 0 => failure
  | fuel + 1 => do
    match ← peek with
    | some .flowSequenceEnd => closed
    | some .flowEntry =>
      if first then failure
      else
        advance
        match ← peek with
        | some .flowSequenceEnd => closed
        | _ => return (← flowItem fuel) :: (← flowItems false fuel)
    | _ =>
      if first then return (← flowItem fuel) :: (← flowItems false fuel)
      else failure
where
  closed : Read (List Node) := do
    advance
    count 2
    return []

/-- An item in brackets: a node, or a mapping of one entry that stands without braces. An empty key
there takes the token behind it along. -/
def flowItem : (fuel : Nat) → Read Node
  | 0 => failure
  | fuel + 1 => do
    if ← accept Token.isKey then
      let next? ← peek
      let key ←
        if next?.any fun t => t.isValue || t.endsItem then
          advance
          empty
        else read false false fuel
      let value ←
        if ← accept Token.isValue then
          if (← peek).any Token.endsItem then empty else read false false fuel
        else empty
      count 2
      return .mapping none [(key, value)]
    else read false false fuel

def flowEntries (first : Bool) : (fuel : Nat) → Read (List (Node × Node))
  | 0 => failure
  | fuel + 1 => do
    match ← peek with
    | some .flowMappingEnd => closed
    | some .flowEntry =>
      if first then failure
      else
        advance
        match ← peek with
        | some .flowMappingEnd => closed
        | _ => return (← flowPair fuel) :: (← flowEntries false fuel)
    | _ =>
      if first then return (← flowPair fuel) :: (← flowEntries false fuel)
      else failure
where
  closed : Read (List (Node × Node)) := do
    advance
    count 2
    return []

def flowPair : (fuel : Nat) → Read (Node × Node)
  | 0 => failure
  | fuel + 1 => do
    if ← accept Token.isKey then
      let next? ← peek
      let key ←
        if next?.any fun t => t.isValue || t.endsPair then empty else read false false fuel
      let value ←
        if ← accept Token.isValue then
          if (← peek).any Token.endsPair then empty else read false false fuel
        else empty
      return (key, value)
    -- A node without a mark of a key is a key without a value.
    else return (← read false false fuel, ← empty)

end

end Node

namespace Document

open Read

/-- Reads the directives: the handles that they state, and whether there were any. `version` tells
whether the version was stated. -/
def directives (version : Bool) (handles : List (List Char × List UInt8)) :
    List Token → Option (List (List Char × List UInt8) × List Token)
  | .directive .version :: tokens => if version then none else directives true handles tokens
  | .directive (.shorthand handle beginning) :: tokens =>
    if handles.any (·.1 == handle) then none
    else directives version (handles ++ [(handle, beginning)]) tokens
  | tokens => some (handles, tokens)

def knownHandles : List (List Char × List UInt8) :=
  [(['!'], [0x21]), (['!', '!'], Tag.family)]

/-- The tokens of a document from its directives on: the handles, the tokens behind the mark of its
beginning, and whether there is a mark. -/
def head? (tokens : List Token) :
    Option (List (List Char × List UInt8) × List Token × Bool) :=
  match tokens with
  | .directive _ :: _ | .documentStart :: _ =>
    match directives false [] tokens with
    | some (handles, .documentStart :: tokens) => some (handles ++ knownHandles, tokens, true)
    | _ => none
  | [] => none
  | _ => some (knownHandles, tokens, false)

/-- The only document among the tokens. A document with a mark may be empty. -/
def ofTokens? (tokens : List Token) : Option Document :=
  match head? tokens with
  | none => none
  | some (handles, tokens, marked) =>
    let isEmpty :=
      match tokens with
      | [] | .directive _ :: _ | .documentStart :: _ | .documentEnd :: _ => marked
      | _ => false
    let body := if isEmpty then empty else Node.read true false (4 * tokens.length + 4)
    match body.run { tokens, handles } with
    | none => none
    | some (root, r) =>
      let behind := r.tokens.dropWhile fun
        | .documentEnd => true
        | _ => false
      if behind.isEmpty then some ⟨root, r.anchored, r.size⟩ else none

def ofText? (text : String) : Option Document :=
  (Token.ofText? text).bind ofTokens?

end Document

end HistoryAudit.Yaml
