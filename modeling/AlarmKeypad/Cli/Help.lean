import AlarmKeypad.Cli.Level
import AlarmKeypad.Text.Layout
/-!
The texts that explain a command line: help, the version, and what was wrong with it.

Help is given at length, with every argument in a paragraph of its own, or in short, with every
argument in a line of two columns.
-/

namespace AlarmKeypad.Cli

def versionNumber : String := "0.1.0"

namespace Argument

/-- The word that stands for its text. -/
def valueName : Argument → String
  | profile => "PROFILE"
  | host => "HOST"
  | transport => "TRANSPORT"
  | port | replayPort => "PORT"
  | partition => "PARTITION"
  | code => "CODE"
  | output => "OUTPUT"
  | color => "COLOR"
  | timeout => "TIMEOUT"
  | command => "COMMAND"
  | shell => "SHELL"
  | log => "LOG"
  | bind => "BIND"
  | interval => "INTERVAL_MS"
  | verbose | interactive | raw | help | version => ""

/-- The text that is meant where none is given. -/
def default? : Argument → Option String
  | output => some "text"
  | color => some "auto"
  | timeout => some "10"
  | replayPort => some "10000"
  | bind => some "0.0.0.0"
  | interval => some "800"
  | _ => none

/-- The texts it takes, where it takes but a few. -/
def choices : Argument → List String
  | transport => ["websocket", "tcp"]
  | output => ["text", "json"]
  | color => ["auto", "always", "never"]
  | shell => Shell.all.map Shell.name
  | _ => []

/-- What each of its few texts means, where that has to be said. -/
def meanings : Argument → List (String × String)
  | transport =>
    [("websocket", "Device web server socket (ws://host/ad2ws)"),
      ("tcp", "Newline-delimited TCP (ser2sock, ad2kp-sim)")]
  | output =>
    [("text", "Human-readable lines (default)"), ("json", "One JSON object per line")]
  | color =>
    [("auto", "Auto-detect (color if terminal is interactive)"),
      ("always", "Always emit color codes"), ("never", "Never emit color codes")]
  | _ => []

/-- Its letter and its name, as they are written. -/
def forms (a : Argument) : List String :=
  (a.short?.map fun c => "-" ++ String.singleton c).toList ++ (a.long?.map ("--" ++ ·)).toList

/-- What stands behind its name: its text, or dots if it may be given again. -/
def suffix (a : Argument) : String :=
  if a.takesValue then "<" ++ a.valueName ++ ">" else if a = verbose then "..." else ""

/-- The argument with its text. -/
def label (a : Argument) : String :=
  match a.long? with
  | none => a.suffix
  | some n => "--" ++ n ++ (if a.takesValue then " " else "") ++ a.suffix

/-- The columns that its label takes, with the letter in front of a name. -/
def width (a : Argument) : Nat := a.label.length + if a.long?.isSome then 4 else 0

/-- The beginning of its entry. -/
def head (a : Argument) : String :=
  match a.long?, a.short? with
  | none, _ => "  " ++ a.label
  | some _, some c => "  -" ++ String.singleton c ++ ", " ++ a.label
  | some _, none => "      " ++ a.label

/-- What is known of its text; at length its few texts have a list of their own, if they have
meanings. -/
def remarks (a : Argument) (long : Bool) (env : Variable.Environment) : List String :=
  (a.variableName?.map fun n => "[env: " ++ n ++ "=" ++ (env.lookup n).getD "" ++ "]").toList ++
    (a.default?.map fun d => "[default: " ++ d ++ "]").toList ++
    if a.choices.isEmpty ∨ (long ∧ ¬a.meanings.isEmpty) then []
    else ["[possible values: " ++ String.intercalate ", " a.choices ++ "]"]

/-- Where arguments with an equal place in their lists come: by letter, small before capital, or by
name. -/
def sortKey (a : Argument) : String :=
  match a.short? with
  | some c => String.ofList [c.toLower, if c.isLower then '0' else '1']
  | none => a.long?.getD ""

end Argument

namespace Place

/-- What an argument does. -/
def summaryOf (p : Place) : Argument → String
  | .profile => "Keypad profile to use"
  | .host => "Device host (overrides profile)"
  | .transport => "Transport (overrides profile)"
  | .port => "Device port (overrides profile; required for tcp)"
  | .partition => "Virtual partition id (overrides profile)"
  | .code => "Code slot id (overrides profile)"
  | .output => "Output format"
  | .color => "When to use color output"
  | .verbose => "Increase verbosity (-v, -vv, -vvv)"
  | .interactive => "Bind keys: 1/2 panel buttons, p/f/a alarm taps, r re-sync, q quit"
  | .timeout => "Seconds to wait for the " ++ if p = mode then "first snapshot" else "connection"
  | .raw => "Forward the string as-is instead of parsing it"
  | .command => "Command name or token, e.g. disarm, bypass:7, \"<STAY>\""
  | .shell => "Shell to generate completions for"
  | .log => "Log file with one protocol line per row"
  | .replayPort => "Port to listen on"
  | .bind => "Address to bind"
  | .interval => "Milliseconds between lines"
  | .help => "Print help"
  | .version => "Print version"

/-- What an argument does, and where to read on. -/
def explain (p : Place) (long : Bool) (a : Argument) : String :=
  if a = .help then
    p.summaryOf a ++
      if long then " (see a summary with '-h')" else " (see more with '--help')"
  else p.summaryOf a

/-- The arguments with a name as they are listed: the first of the place alone beside the first of
those that it shares, and so on. -/
def listed (p : Place) : List Argument :=
  let before (a b : Argument × Nat) : Bool :=
    a.2 < b.2 || a.2 == b.2 && a.1.sortKey ≤ b.1.sortKey
  ((p.own.zipIdx ++ p.shared.zipIdx).mergeSort before).map Prod.fst ++ [.help, .version]

/-- The line that says how the place is used. -/
def usage (p : Place) : String :=
  "Usage: " ++ String.intercalate " " (p.words ++ ["[OPTIONS]"] ++
    (p.positional?.map Argument.label).toList ++
    (if p.hasSubcommands then ["<COMMAND>"] else []))

/-! ### Help -/

/-- What the entries of a help text are indented by at length. -/
def paragraphIndent : String := "          "

/-- The columns that a help text may take. -/
def helpWidth : Nat := 100

/-- The entry of an argument in a paragraph. -/
def paragraph (p : Place) (env : Variable.Environment) (a : Argument) : String :=
  let remarks := a.remarks true env
  let width := (a.meanings.map fun m => m.1.length).foldl max 0
  let below (ls : List String) : String := String.join (ls.map ("\n" ++ paragraphIndent ++ ·))
  a.head ++ below [p.explain true a] ++
    (if remarks.isEmpty then "" else below ("" :: remarks)) ++
    if a.meanings.isEmpty then ""
    else
      "\n" ++ below ("Possible values:" :: a.meanings.map fun m =>
        "- " ++ Text.pad (width + 2) (m.1 ++ ":") ++ m.2)

/-- The entry of an argument in two columns, of which the first is `width` wide. -/
def line (p : Place) (env : Variable.Environment) (width : Nat) (a : Argument) : String :=
  let text := String.intercalate " " (p.explain false a :: a.remarks false env)
  Text.layLine helpWidth (Text.pad (width + 4) a.head) (Text.pad (width + 4) "") text.toList

/-- The entries of arguments under a title. -/
def argumentSection? (p : Place) (long : Bool) (env : Variable.Environment) (title : String)
    (as : List Argument) : Option String :=
  if as.isEmpty then none
  else
    let width := (as.map Argument.width).foldl max 0
    let entries := as.map (if long then p.paragraph env else p.line env width)
    some (title ++ ":\n" ++ String.intercalate (if long then "\n\n" else "\n") entries)

/-- The names of subcommands, and what they are for. -/
def commandSection? (p : Place) : Option String :=
  if p.hasSubcommands then
    let rows := p.subcommands.map (fun q => (q.name, q.summary)) ++
      [("help", "Print this message or the help of the given subcommand(s)")]
    let width := (rows.map fun r => r.1.length).foldl max 0
    let lines := rows.map fun r => "  " ++ Text.pad width r.1 ++ "  " ++ r.2
    some ("Commands:\n" ++ String.intercalate "\n" lines)
  else none

def helpText (p : Place) (long : Bool) (env : Variable.Environment) : String :=
  let sections := p.commandSection?.toList ++
    (p.argumentSection? long env "Arguments" p.positional?.toList).toList ++
    (p.argumentSection? long env "Options" p.listed).toList
  String.intercalate "\n\n"
    ((if long then p.description else p.summary) :: p.usage :: sections) ++ "\n"

/-- The name and the version of the program, with the subcommand that was asked. -/
def versionText (p : Place) : String :=
  String.intercalate "-" p.words ++ " " ++ versionNumber ++ "\n"

end Place

/-! ### Wrong usage -/

namespace UsageFault

/-- The texts that an argument takes, in a line below. -/
def choiceLine (a : Argument) : String :=
  if a.choices.isEmpty then ""
  else "\n  [possible values: " ++ String.intercalate ", " a.choices ++ "]"

/-- What is wrong, in words. -/
def reason (f : UsageFault) : String :=
  match f.kind with
  | .displayHelp _ | .displayVersion | .helpOnMissing => ""
  | .missingSubcommand =>
    "'" ++ String.intercalate " " f.place.words ++
      "' requires a subcommand but one was not provided\n  [subcommands: " ++
      String.intercalate ", " (f.place.subcommands.map Place.name ++ ["help"]) ++ "]"
  | .invalidSubcommand word => "unrecognized subcommand '" ++ word ++ "'"
  | .unknownArgument word => "unexpected argument '" ++ word ++ "' found"
  | .missingArgument a => "the following required arguments were not provided:\n  " ++ a.label
  | .conflict a => "the argument '" ++ a.label ++ "' cannot be used multiple times"
  | .invalidValue a s =>
    (if s.isEmpty then "a value is required for '" ++ a.label ++ "' but none was supplied"
      else "invalid value '" ++ s ++ "' for '" ++ a.label ++ "'") ++ choiceLine a
  | .valueValidation a s v => "invalid value '" ++ s ++ "' for '" ++ a.label ++ "': " ++ v.message
  | .tooManyValues a s =>
    "unexpected value '" ++ s ++ "' for '" ++ a.label ++ "' found; no more were expected"

/-- Whether the usage is repeated below what is wrong; a wrong text says enough by itself. -/
def showsUsage (f : UsageFault) : Bool :=
  match f.kind with
  | .invalidValue .. | .valueValidation .. => false
  | _ => true

/-- What goes to the output. -/
def output (f : UsageFault) (env : Variable.Environment) : String :=
  match f.kind with
  | .displayHelp long => f.place.helpText long env
  | .displayVersion => f.place.versionText
  | _ => ""

/-- What goes to the error output. -/
def report (f : UsageFault) (env : Variable.Environment) : String :=
  match f.kind with
  | .displayHelp _ | .displayVersion => ""
  | .helpOnMissing => f.place.helpText false env
  | _ =>
    "error: " ++ f.reason ++ (if f.showsUsage then "\n\n" ++ f.place.usage else "") ++
      "\n\nFor more information, try '--help'.\n"

end UsageFault
end AlarmKeypad.Cli
