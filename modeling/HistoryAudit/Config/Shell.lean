/-
  HistoryAudit.Config.Shell

  The shell under test: its command line, its prompt and its environment. The
  default shell is started without its user's settings and told to print a
  prompt with a number in it.
-/
import HistoryAudit.Config.Environment

namespace HistoryAudit.Config

open Json

/-- The place in a prompt where its number stands. -/
def counterMark : String := "\x7bn\x7d"

def defaultPrompt : String := "histprobe \x7bn\x7d> "

/-- A character between the single quotes of the shell: a backslash goes before a backslash and
before a quote. -/
def quoteChar (c : Char) : List Char :=
  if c = '\\' then ['\\', '\\'] else if c = '\'' then ['\\', '\''] else [c]

def singleQuoted (s : String) : String :=
  String.ofList ('\'' :: s.toList.flatMap quoteChar ++ ['\''])

/-- The commands that install the prompt. The number goes up once per prompt event, so a prompt
that is painted again keeps its number. -/
def promptCommands (prompt : String) : String :=
  "set -g __histprobe_prompt 0; " ++
    "function __histprobe_prompt_due --on-event fish_prompt; set -g __histprobe_due 1; end; " ++
    "function fish_prompt; if set -q __histprobe_due; set -eg __histprobe_due; " ++
    "set -g __histprobe_prompt (math $__histprobe_prompt + 1); end; printf '%s' " ++
    "(string replace -a -- '\x7bn\x7d' $__histprobe_prompt " ++ singleQuoted prompt ++ "); end"

def defaultShellArgs (prompt : String) : List String :=
  ["--no-config", "-C", promptCommands prompt]

structure Shell where
  command : String := "fish"
  args : List String := defaultShellArgs defaultPrompt
  cwd? : Option String := none
  prompt : String := defaultPrompt
  env : EnvPolicy := .standard
  deriving DecidableEq

namespace Shell

def codec : Codec Shell :=
  Codec.record "ShellConfig" <|
    (Fields.cons (.required "command" Codec.text) <|
      Fields.cons (.withDefault "args" Codec.text.list []) <|
      Fields.cons (.nullable "cwd" Codec.text) <|
      Fields.cons (.required "prompt" Codec.text) <|
      Fields.cons (.withDefault "env" EnvPolicy.codec .standard) Fields.done).map
    (fun (command, args, cwd?, prompt, env, ()) => ⟨command, args, cwd?, prompt, env⟩)
    (fun s => (s.command, s.args, s.cwd?, s.prompt, s.env, ()))

end Shell

end HistoryAudit.Config
