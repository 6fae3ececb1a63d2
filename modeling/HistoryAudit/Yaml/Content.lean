/-
  HistoryAudit.Yaml.Content

  The value that a node stands for, with aliases followed and plain scalars
  understood.
-/
import HistoryAudit.Yaml.Node
import HistoryAudit.Yaml.Plain

namespace HistoryAudit.Yaml

inductive Content where
  | natural (n : Nat)
  | text (text : String)
  /-- Nothing, a truth value, or any other number. -/
  | atom
  | sequence (items : List Content)
  | mapping (entries : List (Content × Content))

/-- A step in the decoding of a document. The state is the number of aliases that may still be
followed. -/
abbrev Decode := ReaderT Document (StateT Nat Option)

namespace Decode

def allowance (d : Document) : Nat := d.size * 100

def maxDepth : Nat := 128

def run {α : Type} (decode : Node → Decode α) (d : Document) : Option α :=
  (decode d.root d (allowance d)).map (·.1)

/-- The node itself, or the one that an alias stands for. -/
def follow : Node → Decode Node
  | .alias number => do
    match ← get with
    | 0 => failure
    | left + 1 =>
      set left
      let (_, node) ← ((← read).anchored.find? (·.1 == number) : Option _)
      return node
  | node => return node

def text (node : Node) : Decode String := do
  match ← follow node with
  | .scalar _ _ cs => return .ofList cs
  | _ => failure

/-- The text of a scalar, or nothing if it is written as such. -/
def text? (node : Node) : Decode (Option String) := do
  match ← follow node with
  | .scalar tag? plain cs =>
    if !plain then return some (.ofList cs)
    else
      match tag? with
      | some .null => if Plain.isNull cs then return none else failure
      | some _ => return some (.ofList cs)
      | none =>
        return if cs.isEmpty || Plain.isNull cs then none else some (.ofList cs)
  | _ => failure

/-- The items of a sequence; an empty place has none. -/
def items (node : Node) : Decode (List Node) := do
  match ← follow node with
  | .sequence _ items => return items
  | .scalar _ true [] => return []
  | _ => failure

/-- The entries whose keys are among the names, each at most once. Other keys are passed over. -/
def fields (names : List String) : List (Node × Node) → Decode (List (String × Node))
  | [] => return []
  | (key, value) :: entries => do
    let name ← text key
    let found ← fields names entries
    if !names.contains name then return found
    else if found.any (·.1 == name) then failure
    else return (name, value) :: found

def field (found : List (String × Node)) (name : String) : Decode Node :=
  ((found.find? (·.1 == name)).map (·.2) : Option Node)

end Decode

namespace Content

def ofPlain (cs : List Char) : Plain → Option Content
  | .natural n => some (.natural n)
  | .wide => none
  | .text => some (.text (.ofList cs))
  | _ => some .atom

/-- The value of a scalar. A tag of a known type must fit the text. -/
def ofScalar (tag? : Option Tag) (plain : Bool) (cs : List Char) : Option Content :=
  match tag? with
  | some .own => none
  | some .null => if Plain.isNull cs then some .atom else none
  | some .boolean => if Plain.isBoolean cs then some .atom else none
  | some .integer => ((Plain.integer? cs).bind Plain.ofInteger?).bind (ofPlain cs)
  | some .float => if Plain.isReal cs then some .atom else none
  | some _ => some (.text (.ofList cs))
  | none => if plain then ofPlain cs (Plain.ofText cs) else some (.text (.ofList cs))

/-- The value of a node. Less than `bound` collections may stand within each other in it, and none
has a tag of the text's own. -/
def ofNode : (bound : Nat) → Node → Decode Content
  | 0, _ => failure
  | bound + 1, node => do
    match ← Decode.follow node with
    | .scalar tag? plain cs => (ofScalar tag? plain cs : Option Content)
    | .sequence tag? items =>
      if tag? = some .own ∨ bound = 0 then failure
      else return .sequence (← items.mapM (ofNode bound))
    | .mapping tag? entries =>
      if tag? = some .own ∨ bound = 0 then failure
      else
        return .mapping
          (← entries.mapM fun (key, value) => do return (← ofNode bound key, ← ofNode bound value))
    | .alias _ => failure

def text? : Content → Option String
  | .text t => some t
  | _ => none

end Content

end HistoryAudit.Yaml
