/-!
The subcommands of the command lines: one for the keypad, and one for the replay server.
-/

namespace AlarmKeypad.Cli

/-- A place on a command line, behind the words that lead to it. -/
inductive Place where
  | root
  | watch
  | mode
  | send
  | config
  | configPath
  | configView
  | completions
  /-- The command line of the replay server. -/
  | replay
deriving DecidableEq

namespace Place

/-- The program and the subcommands that lead to the place. -/
def words : Place → List String
  | root => ["ad2kp"]
  | watch => ["ad2kp", "watch"]
  | mode => ["ad2kp", "mode"]
  | send => ["ad2kp", "send"]
  | config => ["ad2kp", "config"]
  | configPath => ["ad2kp", "config", "path"]
  | configView => ["ad2kp", "config", "show"]
  | completions => ["ad2kp", "completions"]
  | replay => ["ad2kp-sim"]

def name (p : Place) : String := p.words.getLast?.getD ""

/-- What the place is for. -/
def summary : Place → String
  | root => "Virtual keypad for AD2 alarm panel interfaces"
  | watch => "Stream connection and display-mode changes"
  | mode => "Print the current display mode and exit"
  | send => "Send one keypad command and exit"
  | config => "Manage CLI configuration and profiles"
  | configPath => "Print the config file location"
  | configView => "Print the effective configuration"
  | completions => "Generate shell completions"
  | replay => "Replay a recorded AD2 protocol log to TCP clients"

/-- What the program does, at length. -/
def description : Place → String
  | root =>
    "Connects to an AD2 device (WebSocket /ad2ws or raw TCP lines),\n" ++
      "tracks the panel's display mode and sends keypad commands.\n\n" ++
      "Sensitive alarm actions need three taps inside three seconds."
  | replay =>
    "Listens on a TCP port and, for every client, sends the lines of the\n" ++
      "log file one per tick, looping forever. Space pauses all clients;\n" ++
      "q, Esc or Ctrl-C exits. Inbound !PING lines get a !PONG reply."
  | p => p.summary

/-- The places one word further. -/
def subcommands : Place → List Place
  | root => [watch, mode, send, config, completions]
  | config => [configPath, configView]
  | _ => []

/-- Whether a subcommand must follow. -/
def hasSubcommands (p : Place) : Bool := !p.subcommands.isEmpty

/-- The place that a word leads to; one has a short name too. -/
def subcommand? (p : Place) (n : String) : Option Place :=
  p.subcommands.find? fun q => q.name = n ∨ q = watch ∧ n = "w"

/-- All places of the keypad's command line. -/
def all : List Place := [root, watch, mode, send, config, configPath, configView, completions]

end Place
end AlarmKeypad.Cli
