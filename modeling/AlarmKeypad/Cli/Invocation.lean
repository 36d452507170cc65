import AlarmKeypad.Cli.Level
/-!
What a command line asks for.
-/

namespace AlarmKeypad.Cli

structure Options where
  profile : Option String
  host : Option String
  transport : Option TransportKind
  port : Option UInt16
  partition : Option UInt32
  code : Option UInt32
  output : OutputFormat
  color : ColorMode
  verbosity : Nat
deriving DecidableEq

/-- What to do with the configuration. -/
inductive ConfigTask where
  /-- Print where the file is. -/
  | path
  /-- Print what is in effect. -/
  | view
deriving DecidableEq

inductive Task where
  | watch (interactive : Bool)
  | mode (timeout : Nat)
  | send (command : String) (raw : Bool) (timeout : Nat)
  | config (task : ConfigTask)
  | completions (shell : Shell)
deriving DecidableEq

structure Invocation where
  options : Options
  task : Task
deriving DecidableEq

namespace Level

/-- The text of an argument: from the innermost level that was given it, or from its variable. -/
def text? (levels : List Level) (env : Variable.Environment) (a : Argument) : Option String :=
  match levels.findSome? fun l => l.given.lookup a with
  | some s => some s
  | none => a.variableName?.bind fun n => env.lookup n

/-- How often the innermost level that was given an argument was given it; at most 255 times. -/
def count (levels : List Level) (a : Argument) : Nat :=
  match levels.find? fun l => l.has a with
  | some l => min 255 (l.given.countP (·.1 == a))
  | none => 0

end Level

namespace Options

def ofLevels (levels : List Level) (env : Variable.Environment) : Options :=
  let text := Level.text? levels env
  { profile := text .profile
    host := text .host
    transport := (text .transport).bind TransportKind.ofName?
    port := ((text .port).bind (Argument.signed? (UInt16.size - 1))).map Nat.toUInt16
    partition := ((text .partition).bind (Argument.signed? (UInt32.size - 1))).map Nat.toUInt32
    code := ((text .code).bind (Argument.signed? (UInt32.size - 1))).map Nat.toUInt32
    output := ((text .output).bind OutputFormat.ofName?).getD .text
    color := ((text .color).bind ColorMode.ofName?).getD .auto
    verbosity := Level.count levels .verbose }

end Options

/-- How long to wait where no time is given, in seconds. -/
def defaultTimeout : Nat := 10

def Task.ofLevel (l : Level) : Task :=
  let timeout := ((l.given.lookup .timeout).bind Argument.duration?).getD defaultTimeout
  match l.place with
  | .mode => .mode timeout
  | .send => .send ((l.given.lookup .command).getD "") (l.has .raw) timeout
  | .config | .configPath => .config .path
  | .configView => .config .view
  | .completions => .completions (((l.given.lookup .shell).bind Shell.ofName?).getD .bash)
  | .root | .watch | .replay => .watch (l.has .interactive)

def Invocation.read (args : List String) (env : Variable.Environment) :
    Except UsageFault Invocation := do
  let levels ← Level.read .root args env
  let innermost := levels.head?.getD (.new .root)
  return ⟨.ofLevels levels env, .ofLevel innermost⟩

end AlarmKeypad.Cli
