/-
  HistoryAudit.Scenario.OfYaml

  A scenario that is written in YAML. Records may be written as mappings or as
  sequences of their fields.
-/
import HistoryAudit.Scenario.Basic
import HistoryAudit.Yaml.Content

namespace HistoryAudit

open Yaml

namespace Checkpoint

/-- The values of a sequence's items or of a mapping's entries, without the kind that is stated. -/
inductive Body where
  | items (items : List Content)
  | entries (entries : List (Content × Content))

/-- Does the key name this field? A number names it by its position. -/
def namesField (name : String) : Content → Option Bool
  | .text text => some (text == name)
  | .natural n => some (n == 0)
  | _ => none

def fieldTexts (name : String) : List (Content × Content) → Option (List String)
  | [] => some []
  | (key, value) :: entries =>
    match namesField name key, fieldTexts name entries with
    | some false, texts? => texts?
    | some true, some texts => value.text?.map (· :: texts)
    | _, _ => none

def Body.text? (name : String) : Body → Option String
  | .items [item] => item.text?
  | .items _ => none
  | .entries es =>
    match fieldTexts name es with
    | some [text] => some text
    | _ => none

/-- Are there no items? Entries do not matter. -/
def Body.isBare : Body → Bool
  | .items xs => xs.isEmpty
  | .entries _ => true

def ofBody (kind : String) (body : Body) : Option Checkpoint :=
  if kind = "prompt" then if body.isBare then some .prompt else none
  else if kind = "literal" then (body.text? "text").map .literal
  else if kind = "regex" then (body.text? "pattern").map .regex
  else none

/-- How many collections may stand around those within a checkpoint. -/
def bound : Nat := Decode.maxDepth - 3

/-- The kind that the entries state, and the others. -/
def splitEntries : List (Node × Node) → Decode (Option String × List (Content × Content))
  | [] => return (none, [])
  | (key, value) :: entries => do
    match ← Content.ofNode bound key with
    -- The kind is a word however it is written, so it is read as a text.
    | .text "type" =>
      let kind ← Decode.text value
      match ← splitEntries entries with
      | (none, others) => return (some kind, others)
      | (some _, _) => failure
    | key =>
      let value ← Content.ofNode bound value
      let (kind?, others) ← splitEntries entries
      return (kind?, (key, value) :: others)

def ofYaml (node : Node) : Decode Checkpoint := do
  match ← Decode.follow node with
  | .mapping tag? entries =>
    if tag? = some .own then failure
    else
      match ← splitEntries entries with
      | (some kind, others) => (ofBody kind (.entries others) : Option Checkpoint)
      | (none, _) => failure
  | .sequence tag? (kind :: items) =>
    if tag? = some .own then failure
    else
      let kind ← Decode.text kind
      let items ← items.mapM (Content.ofNode bound)
      (ofBody kind (.items items) : Option Checkpoint)
  | _ => failure

end Checkpoint

def Step.ofYaml (node : Node) : Decode Step := do
  match ← Decode.follow node with
  | .mapping _ entries =>
    let found ← Decode.fields ["name", "send", "expect"] entries
    let name ← Decode.text (← Decode.field found "name")
    let send ← Decode.text (← Decode.field found "send")
    match found.find? (·.1 == "expect") with
    | some (_, node) => return { name, send, expect := ← Checkpoint.ofYaml node }
    | none => return { name, send }
  | .sequence _ [name, send] =>
    return { name := ← Decode.text name, send := ← Decode.text send }
  | .sequence _ [name, send, expect] =>
    return {
      name := ← Decode.text name
      send := ← Decode.text send
      expect := ← Checkpoint.ofYaml expect }
  | _ => failure

namespace Scenario

def ofNode (node : Node) : Decode Scenario := do
  match ← Decode.follow node with
  | .mapping _ entries =>
    let found ← Decode.fields ["name", "description", "steps"] entries
    let name ← Decode.text (← Decode.field found "name")
    let steps ← Decode.items (← Decode.field found "steps")
    let description? ←
      match found.find? (·.1 == "description") with
      | some (_, node) => Decode.text? node
      | none => pure none
    return { name, description?, steps := ← steps.mapM Step.ofYaml }
  | .sequence _ [name, description, steps] =>
    return {
      name := ← Decode.text name
      description? := ← Decode.text? description
      steps := ← (← Decode.items steps).mapM Step.ofYaml }
  | _ => failure

def ofYaml? (text : String) : Option Scenario :=
  (Document.ofText? text).bind (Decode.run ofNode)

end Scenario

end HistoryAudit
