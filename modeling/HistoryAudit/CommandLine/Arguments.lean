/-
  HistoryAudit.CommandLine.Arguments

  Reading the arguments of a command: switches with and without values, until a
  word or the mark `--` comes.
-/
import HistoryAudit.Text.OsText

namespace HistoryAudit.CommandLine

inductive Misuse where
  | unknown (argument : String)
  | noValue (name : String)
  | unneededValue (name : String)
  | badValue (name value : String)
  | repeated (name : String)
  | required (name : String)
  | notText
  | noCommand
  | unknownCommand (word : String)
  deriving DecidableEq

def Misuse.message : Misuse → String
  | .unknown argument => "unexpected argument '" ++ argument ++ "' found"
  | .noValue name => "a value is required for '--" ++ name ++ "' but none was supplied"
  | .unneededValue name => "unexpected value for '--" ++ name ++ "' found; no more were expected"
  | .badValue name value => "invalid value '" ++ value ++ "' for '--" ++ name ++ "'"
  | .repeated name => "the argument '--" ++ name ++ "' cannot be used multiple times"
  | .required name => "the required argument '--" ++ name ++ "' was not provided"
  | .notText => "invalid UTF-8 was detected in one or more arguments"
  | .noCommand => "a subcommand is required but one was not provided"
  | .unknownCommand word => "unrecognized subcommand '" ++ word ++ "'"

/-- What ends the reading of arguments without a command. -/
inductive Halt where
  | help
  | version
  | misuse (m : Misuse)
  deriving DecidableEq

inductive Effect where
  | mark
  /-- Takes a value that passes the test. -/
  | value (accepts : OsText → Bool)
  | halt (h : Halt)

/-- A switch: `--name`, or `-` and a letter. -/
structure Switch where
  name : String
  letter? : Option Char := none
  effect : Effect := .mark

/-- The values under the names of switches, empty for a mark. -/
abbrev Found := List (String × OsText)

inductive Remainder where
  | nothing
  | word (word : OsText) (behind : List OsText)
  /-- What stands behind the mark `--`. -/
  | trailing (arguments : List OsText)

def hyphen : UInt8 := 45

def equals : UInt8 := 61

def looksLikeSwitch (argument : OsText) : Bool :=
  match argument.bytes with
  | b :: _ :: _ => b == hyphen
  | _ => false

/-- The name of a switch that is written in full, and the value attached to it. -/
def fullName? (argument : OsText) : Option (OsText × Option OsText) :=
  match argument.bytes with
  | first :: second :: bytes =>
    if first = hyphen ∧ second = hyphen then
      let name : OsText := ⟨bytes.takeWhile (· != equals)⟩
      match bytes.dropWhile (· != equals) with
      | _ :: value => some (name, some ⟨value⟩)
      | [] => some (name, none)
    else none
  | _ => none

namespace Found

/-- Adds what a switch says; it may say it once. -/
def add (found : Found) (name : String) (value : OsText) : Except Halt Found :=
  if found.any (·.1 == name) then .error (.misuse (.repeated name))
  else .ok (found ++ [(name, value)])

def addValue (found : Found) (name : String) (value : OsText) (accepts : OsText → Bool) :
    Except Halt Found :=
  if accepts value then found.add name value else .error (.misuse (.badValue name value.shown))

/-- Adds the switches that letters stand for; none of them takes a value. -/
def addLetters (switches : List Switch) (argument : String) : List Char → Found → Except Halt Found
  | [], found => .ok found
  | letter :: letters, found =>
    match switches.find? (·.letter? == some letter) with
    | none => .error (.misuse (.unknown argument))
    | some s =>
      match s.effect with
      | .mark => (found.add s.name "").bind (addLetters switches argument letters)
      | .value _ => .error (.misuse (.noValue s.name))
      | .halt h => .error h

def value? (found : Found) (name : String) : Option OsText :=
  (found.find? (·.1 == name)).map (·.2)

/-- The value under a name, for a switch that accepts text only. -/
def text? (found : Found) (name : String) : Option String := (found.value? name).map (·.shown)

def has (found : Found) (name : String) : Bool := found.any (·.1 == name)

end Found

/-- Reads switches until something else comes. A value does not begin like a switch, unless it is
attached. -/
def readSwitches (switches : List Switch) :
    List OsText → Found → Except Halt (Found × Remainder)
  | [], found => .ok (found, .nothing)
  | argument :: arguments, found =>
    if argument = "--" then .ok (found, .trailing arguments)
    else if !looksLikeSwitch argument then .ok (found, .word argument arguments)
    else
      match fullName? argument with
      | none =>
        -- No letter is U+FFFD, so that a part that is not valid is refused.
        (found.addLetters switches argument.shown (argument.shown.toList.drop 1)).bind
          (readSwitches switches arguments)
      | some (name, attached?) =>
        match switches.find? (fun s => OsText.ofString s.name == name) with
        | none => .error (.misuse (.unknown argument.shown))
        | some s =>
          match s.effect, attached? with
          | .halt h, none => .error h
          | .mark, none => (found.add s.name "").bind (readSwitches switches arguments)
          | .value accepts, some value =>
            (found.addValue s.name value accepts).bind (readSwitches switches arguments)
          | .value accepts, none =>
            -- The value is the next argument.
            match arguments with
            | [] => .error (.misuse (.noValue s.name))
            | value :: arguments =>
              if looksLikeSwitch value then .error (.misuse (.noValue s.name))
              else (found.addValue s.name value accepts).bind (readSwitches switches arguments)
          | _, some _ => .error (.misuse (.unneededValue s.name))

end HistoryAudit.CommandLine
