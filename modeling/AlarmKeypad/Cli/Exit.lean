import AlarmKeypad.Cli.Completion
import AlarmKeypad.Cli.ConfigTask
import AlarmKeypad.Cli.Program
import AlarmKeypad.Cli.Report
import AlarmKeypad.Connector
import AlarmKeypad.Journal
/-!
How the keypad's program ends: an exit code, and what it writes.
-/

namespace AlarmKeypad.Cli

structure Exit where
  code : Nat
  output : String
  errors : String
deriving DecidableEq

namespace Exit

def ok (output : String) : Exit := ⟨0, output, ""⟩

def ofUsage (f : UsageFault) (env : Variable.Environment) : Exit :=
  ⟨f.exitCode, f.output env, f.report env⟩

def ofFault (f : CliFault) (output : String) : Exit := ⟨f.exitCode, output, f.report⟩

/-- The end of a program that has written a journal before. -/
def after (e : Exit) (journal : String) : Exit := { e with errors := journal ++ e.errors }

end Exit

/-- What a program finds when it starts. -/
structure Surroundings where
  environment : Variable.Environment
  /-- What is in the configuration file, if it is there. -/
  configFile : Option (List UInt8)
  /-- Whether the input and the output are terminals. -/
  inputTerminal : Bool
  outputTerminal : Bool

namespace Surroundings

def configPath (s : Surroundings) : String := Config.path s.environment

/-- The printer that the options ask for; a variable keeps colors away. -/
def printer (s : Surroundings) (o : Options) : Printer :=
  ⟨o.output, o.color.isColored s.outputTerminal (s.environment.lookup "NO_COLOR").isSome, false⟩

end Surroundings

/-- What a program does with its command line: what it writes into its journal, up to a rank, and
what is left to do. -/
structure Start (Errand : Type) where
  entries : List Journal.Entry
  rank : Nat
  errand : Errand

/-- What is left to do once a command line is read. -/
inductive Errand where
  /-- Nothing; the program ends. -/
  | ended (e : Exit)
  /-- A command works on a keypad. -/
  | keypad (p : Program) (printer : Printer) (c : Connection)

namespace Errand

/-- Where a connection to the endpoint goes, in words; a raw stream goes nowhere without a port. -/
def addressOf (e : Endpoint) : Except CliFault String :=
  if e.transport = .tcp ∧ e.port.isNone then
    .error (.validation "port" "required for the tcp transport")
  else e.address.mapError CliFault.ofKeypad

/-- The command of a task on the keypad that the options and the configuration describe. -/
def ofTask (s : Surroundings) (config : Config) (i : Invocation) : Except CliFault Errand := do
  let c ← i.options.resolve config s.configPath
  let address ← addressOf c.endpoint
  return .keypad (.new i.task address s.inputTerminal) (s.printer i.options) c

def ofExcept : Except CliFault Errand → Errand
  | .ok e => e
  | .error f => .ended (.ofFault f "")

/-- The profile that a configuration offers. -/
def profileEntries (config : Config) (o : Options) : List Journal.Entry :=
  match config.active o.profile with
  | .ok (some (name, _)) => [⟨.debug, "using profile", [("profile", Journal.quote name)]⟩]
  | _ => []

def beginEntries : Errand → List Journal.Entry
  | .ended _ => []
  | .keypad p _ c =>
    let endpoint := ("endpoint", c.endpoint.text)
    ⟨.debug, "dispatching command", [endpoint]⟩ ::
      match p.task with
      | .watch false => [⟨.info, "watching keypad", [endpoint]⟩]
      | _ => []

def ofInvocation (s : Surroundings) (i : Invocation) : Start Errand :=
  let rank := Journal.threshold .warning i.options.verbosity
  match i.task with
  | .config t =>
    match t.run (s.printer i.options) s.configPath s.configFile s.environment with
    | .ok text => ⟨[], rank, .ended (.ok text)⟩
    | .error f => ⟨[], rank, .ended (.ofFault f "")⟩
  | .completions shell => ⟨[], rank, .ended (.ok shell.script)⟩
  | _ =>
    let config := Config.loadOrEmpty s.configFile s.environment
    let errand := ofExcept (ofTask s config i)
    ⟨profileEntries config i.options ++ errand.beginEntries, rank, errand⟩

def read (args : List String) (s : Surroundings) : Start Errand :=
  match Invocation.read args s.environment with
  | .ok i => ofInvocation s i
  | .error f => ⟨[], 0, .ended (.ofUsage f s.environment)⟩

end Errand

/-- How the program ends once its command is done. -/
def Program.exit? (p : Program) (q : Printer) (now : Stamp) : Option Exit :=
  match p.phase with
  | .done (.ok ()) => some (.ok (p.output q now))
  | .done (.error f) => some (.ofFault f (p.output q now))
  | _ => none

end AlarmKeypad.Cli
