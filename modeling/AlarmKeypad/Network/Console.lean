import AlarmKeypad.Cli.Exit
import AlarmKeypad.Network.Clock
import AlarmKeypad.Network.Line
import Std.Async.Signal
/-!
The console of a command: the keys and the interrupt that come to it, and what it prints.
-/

namespace AlarmKeypad.Network

open Cli Scenario Std.Async

/-- The time between two looks at what has come, in milliseconds. -/
def glance : UInt32 := 5

/-! ### Keys -/

/-- The keys of a terminal, which passes them on a line at a time. -/
inductive Keys where
  /-- Nobody presses keys, or no more of them. -/
  | absent
  /-- The next line is not waited for yet. -/
  | ready
  | reading (line : Task (Except IO.Error String))

def keyOf (c : Char) : KeyInput :=
  if c = '\x1b' then .pressed ⟨.escape, false⟩
  else if c = '\x03' then .pressed ⟨.char 'c', true⟩
  else .pressed ⟨.char c, false⟩

def keysOf (line : String) : List KeyInput :=
  if line.isEmpty then [.ended] else (line.toList.filter (· ≠ '\n')).map keyOf

/-- The keys that have come. The line after them is waited for only when this is asked again, so
that a program that ends at a key waits for no other. -/
def Keys.poll : Keys → IO (List KeyInput × Keys)
  | .absent => return ([], .absent)
  | .ready => do
    let stdin ← IO.getStdin
    return ([], .reading (← IO.asTask stdin.getLine .dedicated))
  | .reading t => do
    if ← IO.hasFinished t then
      match t.get with
      | .error _ => return ([.failed ⟨.other, none⟩], .absent)
      | .ok line => return (keysOf line, if line.isEmpty then .absent else .ready)
    else return ([], .reading t)

/-! ### Interrupts -/

abbrev Interrupt := AsyncTask Int

/-- Waits for an interrupt, which ends the program no longer by itself. -/
def awaitInterrupt : IO Interrupt := do
  (← Signal.Waiter.mk .sigint false).wait

/-- The interrupt as a terminal with keys passes it on. -/
def interruptKey : KeyInput := keyOf '\x03'

/-! ### The command -/

structure Live where
  console : Console
  line : Line
  keys : Keys
  interrupt : Option Interrupt
  /-- The events that have been told. -/
  told : Nat

structure Setting where
  target : Target
  connection : Connection
  printer : Printer
  endpoint : String
  rank : Nat
  color : Bool
  /-- When the command began, on the clock of the machine. -/
  begun : Nat

namespace Setting

def now (s : Setting) : IO Nat := return (← IO.monoMsNow) - s.begun

def write (s : Setting) (p : Program) (x : Print) : IO Unit := do
  let printer := p.printer s.printer
  IO.print (printer.line (x.text printer (← localStamp)))

def writeJournal (s : Setting) (es : List Journal.Entry) : IO Unit := do
  if es.any (·.isWritten s.rank) then
    IO.eprint (Journal.text s.color s.rank (← journalStamp) es)

/-- Prints and does what the console has done. -/
def tell (s : Setting) (l : Live) : IO Live := do
  let (news, console) := l.console.takeNews l.told
  s.writeJournal (Session.entries s.endpoint news.events)
  for p in news.prints do s.write console.program p
  (← IO.getStdout).flush
  let line ← news.sights.foldlM (Line.serve s.target) l.line
  let console := console.forget
  return { l with console := console, line := line, told := console.world.session.history.length }

/-- What has come to the console by now. -/
def arrivals (s : Setting) (l : Live) : IO (List Arrival × Live) := do
  let (fromLine, line) ← l.line.poll s.target s.connection.endpoint.transport
  let (pressed, keys) ← Keys.poll l.keys
  let (interrupts, interrupt) ← match l.interrupt with
    | none => pure ([], none)
    | some i =>
      if ← IO.hasFinished i then
        let a := if l.console.program.task = .watch true then .input interruptKey else .interrupt
        pure ([a], some (← awaitInterrupt))
      else pure ([], some i)
  return (fromLine ++ pressed.map .input ++ interrupts,
    { l with line := line, keys := keys, interrupt := interrupt })

/-- Goes on until the command is done. -/
partial def run (s : Setting) (l : Live) : IO Exit := do
  let l ← s.tell l
  match l.console.program.phase with
  | .done (.ok ()) => return .ok ""
  | .done (.error f) => return .ofFault f ""
  | _ =>
    let (as, l) ← s.arrivals l
    if as.isEmpty then IO.sleep glance
    let console := (l.console.passTo (← s.now) true)
    s.run { l with console := as.foldl Console.arrive console }

end Setting

def Setting.begin (s : Setting) (p : Program) : IO Exit := do
  let console := Console.new p s.connection.settings (remoteDevice s.connection.endpoint.transport)
  let live : Live := ⟨console.settle, .absent, .absent, none, 0⟩
  match p.task with
  | .watch interactive =>
    let keys : Keys := if interactive && p.terminal then .ready else .absent
    s.run { live with keys := keys, interrupt := some (← awaitInterrupt) }
  | _ => s.run live

/-- Carries out a command on a keypad. -/
def runCommand (p : Program) (printer : Printer) (c : Connection) (rank : Nat) (color : Bool) :
    IO Exit := do
  match Target.ofEndpoint? c.endpoint with
  | none => return .ofFault (.noEndpoint c.endpoint.text) ""
  | some target => Setting.begin ⟨target, c, printer, p.endpoint, rank, color, ← IO.monoMsNow⟩ p

end AlarmKeypad.Network
