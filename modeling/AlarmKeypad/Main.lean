import AlarmKeypad.Network.Listener
/-!
The two programs: a keypad on the command line, and a server that replays a log. The name that they
are called by tells them apart.
-/

namespace AlarmKeypad

/-- The variables of the process. -/
def processEnvironment : IO Variable.Environment := do
  let bytes ← IO.FS.readBinFile "/proc/self/environ"
  let texts := (Text.splitAll '\x00' (Text.Utf8.decodeLossy bytes.toList)).filterMap
    (Text.splitOnce '=')
  return texts.map fun (name, value) => (String.ofList name, String.ofList value)

/-- What is in a file, if it can be read. -/
def readFile? (path : String) : IO (Option (List UInt8)) := do
  try return some (← IO.FS.readBinFile path).toList
  catch _ => return none

def readText (path : String) : IO (List Char) := do
  return Text.Utf8.decodeLossy ((← readFile? path).getD [])

/-- The home of the account that the process runs for, if the system knows one. -/
def accountHome? : IO (Option String) := do
  let status := Text.splitAll '\n' (← readText "/proc/self/status")
  let user := status.findSome? fun line =>
    match Text.splitAll '\t' line with
    | name :: user :: _ => if name = "Uid:".toList then some user else none
    | _ => none
  return user.bind (Config.accountHome? (← readText "/etc/passwd"))

/-- Writes what is left to write, and ends. -/
def endProgram (e : Cli.Exit) : IO UInt32 := do
  IO.print e.output
  IO.eprint e.errors
  return e.code.toUInt32

/-- What the process finds; its variables name the home of the account if they name none. -/
def surroundings (env : Variable.Environment) : IO Cli.Surroundings := do
  let env := ("HOME", Config.home env ((← accountHome?).getD ".")) :: env
  return ⟨env, ← readFile? (Config.path env), ← (← IO.getStdin).isTty, ← (← IO.getStdout).isTty⟩

def keypadProgram (args : List String) (env : Variable.Environment) : IO UInt32 := do
  let start := Cli.Errand.read args (← surroundings env)
  let color := Journal.isColored (env.lookup "NO_COLOR")
  IO.eprint (Journal.text color start.rank (← Network.journalStamp) start.entries)
  match start.errand with
  | .ended e => endProgram e
  | .keypad p printer c => endProgram (← Network.runCommand p printer c start.rank color)

def replayProgram (args : List String) (env : Variable.Environment) : IO UInt32 := do
  let path := (Replay.Invocation.read args).toOption.map Replay.Invocation.path
  let file ← match path with
    | some p => readFile? p
    | none => pure none
  let start := Replay.Errand.read args (fun _ => file) fun _ => true
  let color := Journal.isColored (env.lookup "NO_COLOR")
  IO.eprint (Journal.text color start.rank (← Network.journalStamp) start.entries)
  match start.errand with
  | .ended e => endProgram e
  | .serve s a => endProgram (← Network.runServer s a (← (← IO.getStdin).isTty) start.rank color)

end AlarmKeypad

def main (args : List String) : IO UInt32 := do
  let env ← AlarmKeypad.processEnvironment
  if (← IO.appPath).fileName = some "ad2kp-sim" then AlarmKeypad.replayProgram args env
  else AlarmKeypad.keypadProgram args env
