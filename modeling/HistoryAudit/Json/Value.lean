/-
  HistoryAudit.Json.Value

  JSON values. An object keeps its members as they were written, in order and
  with repetitions; `canonical` sorts them by name and lets the last of equal
  names win, which is the form in which values are kept and printed.
-/

namespace HistoryAudit.Json

/-- A number is an integer of at most 64 bits, or a double. -/
inductive Number where
  | int (n : Int)
  | float (f : Float)
  deriving DecidableEq

inductive Value where
  | null
  | bool (b : Bool)
  | number (n : Number)
  | string (s : String)
  | array (items : List Value)
  | object (members : List (String × Value))
  deriving Inhabited

namespace Value

def int (n : Int) : Value := .number (.int n)

def nat (n : Nat) : Value := .number (.int n)

def strings (texts : List String) : Value := .array (texts.map .string)

/-- Puts a member into a list sorted by name; an equal name gets the new value. -/
def insertMember (name : String) (v : α) : List (String × α) → List (String × α)
  | [] => [(name, v)]
  | (key, w) :: rest =>
    if name < key then (name, v) :: (key, w) :: rest
    else if name = key then (name, v) :: rest
    else (key, w) :: insertMember name v rest

/-- The members sorted by name, the last of equal names winning. -/
def sortMembers (members : List (String × α)) : List (String × α) :=
  members.foldl (fun sorted m => insertMember m.1 m.2 sorted) []

mutual

/-- The value with the members of every object sorted and free of repetitions. -/
def canonical : Value → Value
  | .array items => .array (canonicalItems items)
  | .object members => .object (sortMembers (canonicalMembers members))
  | v => v

def canonicalItems : List Value → List Value
  | [] => []
  | v :: vs => canonical v :: canonicalItems vs

def canonicalMembers : List (String × Value) → List (String × Value)
  | [] => []
  | (name, v) :: rest => (name, canonical v) :: canonicalMembers rest

end

/-- The value of the last member of that name. -/
def member? (name : String) : Value → Option Value
  | .object members => (members.reverse.find? (·.1 == name)).map (·.2)
  | _ => none

mutual

/-- `v` with `overlay` put over it: objects merge member by member, anything else is replaced. -/
def merge : (v overlay : Value) → Value
  | .object members, .object extra => .object (mergeMembers members extra)
  | _, overlay => overlay

def mergeMembers (members : List (String × Value)) :
    List (String × Value) → List (String × Value)
  | [] => members
  | (name, w) :: rest =>
    match members.find? (·.1 == name) with
    | some (_, v) => mergeMembers (insertMember name (merge v w) members) rest
    | none => mergeMembers (insertMember name w members) rest

end

end Value

end HistoryAudit.Json
