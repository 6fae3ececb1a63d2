/-
  HistoryAudit.StandIn.Shell

  The stand-in itself: it reads lines, runs a handful of commands and writes the
  history log where the harness looks for it.
-/
import HistoryAudit.Files.Tree
import HistoryAudit.Json.Printer
import HistoryAudit.StandIn.Mode
import HistoryAudit.Text.Digits
import HistoryAudit.Text.Utf8

namespace HistoryAudit.StandIn

open Json Files

structure Command where
  text : String
  exit? : Option Int
  duration : Nat

/-- The stand-in between two lines. -/
structure Shell where
  mode : Mode
  log? : Option OsText
  commands : List Command := []
  files : Tree
  /-- What was printed, the last piece first. -/
  printed : List String := []

inductive Request where
  | nothing
  | clear
  | save
  /-- Runs a command: what it prints and its exit code. -/
  | run (output : String) (exit? : Option Int)
  | leave (status : Int)
  deriving DecidableEq

/-- A number of 32 bits with an optional sign. -/
def int32? (cs : List Char) : Option Int :=
  let value? : Option Int := match cs with
    | '-' :: ds => (Text.number? 10 ds).map fun n => -(n : Int)
    | '+' :: ds => (Text.number? 10 ds).map Int.ofNat
    | ds => (Text.number? 10 ds).map Int.ofNat
  value?.filter fun n => -(Nat.pow 2 31) ≤ n ∧ n < Nat.pow 2 31

def isBlock (line : String) : Bool :=
  Text.startsWith "begin".toList line.toList &&
    Text.startsWith "end".toList.reverse (Text.trimEnd line).toList.reverse

/-- Is the line the command `name`, alone or with arguments? -/
def isCommand (name line : String) : Bool :=
  line == name || Text.startsWith (name ++ " ").toList line.toList

def arguments (name line : String) : String :=
  Text.trimStart (String.ofList (line.toList.drop name.length))

/-- What a line, trimmed, asks for. -/
def Request.of (mode : Mode) (line : String) : Request :=
  if line = "" then .nothing
  else if line = "builtin history clear" ∨ line = "history clear" then .clear
  else if line = "builtin history save" ∨ line = "history save" then .save
  else if line = "true" then .run "" (some 0)
  else if line = "false" then .run "" (some 1)
  else if isBlock line then .run "" (if mode = .blockExit then some 0 else none)
  else if isCommand "echo" line then .run (arguments "echo" line ++ "\n") (some 0)
  else if isCommand "exit" line then
    .leave ((int32? (Text.trim (arguments "exit" line)).toList).getD 0)
  else
    .run ("fake-shell: Unknown command: " ++ (Text.firstWord? line).getD line ++ "\n") (some 127)

def exitMember (exit? : Option Int) : List (String × Value) :=
  (exit?.map fun code => ("exit", .int code)).toList

/-- The records of the command numbered `index`. -/
def records (mode : Mode) (index : Nat) (c : Command) : List Value :=
  if mode = .split then
    let id : String × Value := ("id", .string s!"item{index}")
    [.object [("cmd", .string c.text), id]] ++
      (c.exit?.map fun code => Value.object [("exit", .int code), id]).toList ++
      [.object [("dur", .nat c.duration), id]]
  else
    let duration := if mode = .noDuration then [] else [("dur", .nat c.duration)]
    [.object (("cmd", .string c.text) :: duration ++ exitMember c.exit?)]

def logText (mode : Mode) (commands : List Command) : String :=
  String.ofList ((commands.zipIdx).flatMap fun (c, index) =>
    (records mode index c).flatMap fun v => v.write ++ ['\n'])

namespace Shell

def print (s : Shell) (text : String) : Shell := { s with printed := text :: s.printed }

/-- Saves the history, unless the mode or a missing location forbids it; the flag tells whether it
could be written. -/
def save (s : Shell) : Shell × Bool :=
  match s.log? with
  | none => (s, true)
  | some path =>
    if s.mode = .noSave then (s, true)
    else
      match s.files.place path (Text.Utf8.encode (logText s.mode s.commands)) false with
      | (files, none) => ({ s with files }, true)
      | (files, some _) => ({ s with files }, false)

/-- Forgets the history and removes its log. -/
def clear (s : Shell) : Shell :=
  match s.log? with
  | none => { s with commands := [] }
  | some path =>
    { s with commands := [], files := (s.files.remove path).toOption.getD s.files }

/-- Does what a line asks for, which takes `duration`; the number is the exit status, if the shell
ends. -/
def runLine (s : Shell) (line : String) (duration : Nat) : Shell × Option Int :=
  match Request.of s.mode line with
  | .nothing => (s, none)
  | .clear => (s.clear, none)
  | .save =>
    match s.save with
    | (s, true) => (s, none)
    | (s, false) => (s, some 1)
  | .run output exit? =>
    ({ s.print output with commands := s.commands ++ [⟨line, exit?, duration⟩] }, none)
  | .leave status => (s, some status)

end Shell

/-- The prompt with its number filled in at every mark. -/
def fillPrompt (number : String) : List Char → List Char
  | '\x7b' :: 'n' :: '\x7d' :: rest => number.toList ++ fillPrompt number rest
  | c :: rest => c :: fillPrompt number rest
  | [] => []

def promptText (template : String) (number : Nat) : String :=
  String.ofList (fillPrompt (toString number) template.toList)

def modeOfArguments? : List String → Option Mode
  | [] => none
  | arg :: rest =>
    if arg = "--mode" then rest.head?.map Mode.parse else modeOfArguments? rest

/-- Runs lines, the first one numbered `number`; `durations` tells how long each takes. A line that
is not text ends the shell. -/
def runLines (template : String) (durations : Nat → Nat) :
    (number : Nat) → List (Except Text.Utf8.Break String) → Shell → Shell × Int
  | _, [], s => (s, 0)
  | _, .error _ :: _, s => (s, 1)
  | number, .ok line :: rest, s =>
    match s.runLine (Text.trim line) (durations number) with
    | (s, some status) => (s, status)
    | (s, none) =>
      runLines template durations (number + 1) rest (s.print (promptText template (number + 1)))

/-- Splits bytes at line feeds; there is no empty piece behind a final one. -/
def byteLines : List UInt8 → List (List UInt8)
  | [] => []
  | b :: bs =>
    if b = 10 then [] :: byteLines bs
    else
      match byteLines bs with
      | [] => [[b]]
      | line :: rest => (b :: line) :: rest

structure Result where
  output : String
  /-- The exit status, as the system reports it. -/
  status : Nat
  files : Tree

def run (args : List String) (env : Config.Variables) (input : List UInt8) (files : Tree)
    (durations : Nat → Nat) : Result :=
  let mode := (modeOfArguments? args).getD
    (Mode.parse ((Config.lookup? env modeVariable).getD ""))
  let template := (Config.lookup? env promptVariable).getD defaultPrompt
  let shell : Shell :=
    { mode, log? := (Config.ofEnvironment env).history.logPath?, files
      printed := [promptText template 1] }
  let (s, status) :=
    runLines template durations 1 ((byteLines input).map Text.Utf8.decode) shell
  ⟨String.join s.printed.reverse, (status % 256).toNat, s.files⟩

end HistoryAudit.StandIn
