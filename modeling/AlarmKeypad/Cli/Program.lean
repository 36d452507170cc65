import AlarmKeypad.Cli.Printer
import AlarmKeypad.Cli.Resolve
import AlarmKeypad.Keyboard
import AlarmKeypad.Session.Move
import AlarmKeypad.Session.Notice
/-!
The commands that work on a keypad: watching it, asking for its mode, and sending to it.

A command is a machine beside the session of the keypad. It waits in its phase for the answer to a
call, for a value that the session publishes, for notices, for time or for keys; `act?` is its next
step, with the moves of the session that the step makes.
-/

namespace AlarmKeypad.Cli

open Session

/-- What a key stands for while a keypad is watched. -/
inductive KeyAction where
  /-- A button of the panel. -/
  | primary
  | secondary
  | tap (a : AlarmAction)
  | resync
  | quit
deriving DecidableEq

def KeyAction.ofKey? (k : Key) : Option KeyAction :=
  if k.isInterrupt then some .quit
  else match k.code with
    | .char 'q' | .escape => some .quit
    | .char '1' => some .primary
    | .char '2' => some .secondary
    | .char 'p' => some (.tap .panic)
    | .char 'f' => some (.tap .fire)
    | .char 'a' => some (.tap .aux)
    | .char 'r' => some .resync
    | _ => none

/-- What a command prints. -/
inductive Print where
  /-- The keys and what they stand for. -/
  | keys
  | mode (m : DisplayMode) (alpha : Option String)
  | connection (s : ConnectionState)
  | change (c : ModeChange)
  | gesture (a : AlarmAction) (c : Confirmation)
  /-- A command of the command line has been sent. -/
  | sent (token : String)
  /-- A command of a key has been sent. -/
  | keySent (c : Command)
  | noButton (m : DisplayMode)
  | notSent (f : KeypadFault)
deriving DecidableEq

def Print.ofNotice : Notice → Print
  | .connection s => .connection s
  | .mode c => .change c

/-- The line that is printed. -/
def Print.text (p : Printer) (now : Stamp) : Print → String
  | keys => "keys: 1/2 panel buttons, p/f/a alarm taps (x3), r re-sync, q quit"
  | mode m alpha => p.mode m alpha
  | connection s => p.connection now s
  | change c => p.change now c
  | gesture a c => p.gesture now a c
  | sent token =>
    match p.format with
    | .json => Json.Value.text (.object [("sent", .string token)])
    | .text => "sent " ++ token
  | keySent c => "sent " ++ c.token
  | noButton m => "no button in mode " ++ m.name
  | notSent f => "not sent: " ++ f.message

/-- How a command ends once the keypad is shut down. -/
inductive Outcome where
  | ok
  | mode (s : Snapshot)
  | sent (token : String)
  | failed (f : CliFault)
deriving DecidableEq

/-- What a call of the command is for. -/
inductive Purpose where
  /-- The command of the command line. -/
  | send (token : String)
  /-- A command of a key. -/
  | key (c : Command)
  | resync
deriving DecidableEq

inductive Phase where
  | begun
  /-- Waits until the session is started. -/
  | connecting (id : Nat)
  /-- Waits until a time for what the command needs. -/
  | waiting (deadline : Nat)
  /-- Waits for notices, keys and the end. -/
  | watching
  | calling (id : Nat) (p : Purpose)
  /-- Waits until the keypad is shut down. -/
  | leaving (id : Nat) (o : Outcome)
  | done (r : Except CliFault Unit)

structure Program where
  task : Task
  /-- The name of the endpoint in faults. -/
  endpoint : String
  /-- Whether the keys come from a terminal. -/
  terminal : Bool
  phase : Phase
  /-- The number of notices heard. -/
  heard : Nat
  gestures : GestureConfirmer
  /-- What has come from the keyboard and has not been looked at. -/
  inputs : List KeyInput
  interrupted : Bool
  /-- Whether the terminal was made raw, and whether it was set back. -/
  raw : Bool
  restored : Bool
  /-- What has been printed, the last in front. -/
  prints : List Print

namespace Program

def new (task : Task) (endpoint : String) (terminal : Bool) : Program :=
  ⟨task, endpoint, terminal, .begun, 0, .new GestureConfirmer.defaultWindow, [], false, false,
    false, []⟩

def print (p : Program) (x : Print) : Program := { p with prints := x :: p.prints }

def goTo (p : Program) (phase : Phase) : Program := { p with phase := phase }

/-- The command is over; the terminal is set back if it was raw. -/
def finish (p : Program) (r : Except CliFault Unit) : Program :=
  { p with phase := .done r, restored := p.raw }

/-- Begins a call and goes to a phase that waits for it. -/
def begin (p : Program) (s : State) (r : Request) (phase : Nat → Phase) :
    Option (Program × List Move) :=
  some (p.goTo (phase s.callCount), [.call r])

def leave (p : Program) (s : State) (o : Outcome) : Option (Program × List Move) :=
  p.begin s .shutdown (.leaving · o)

/-- Goes on with a call, or with `next` once it has returned. -/
def await (p : Program) (s : State) (id : Nat) (next : Reply → Program) :
    Option (Program × List Move) :=
  match s.calls.lookup id, replyOf id s.history with
  | none, some r => some (next r, [])
  | _, _ => if (s.resume? id).isSome then some (p, [.resume id]) else none

/-- The token of a command of the command line. -/
def token? (command : String) (raw : Bool) : Except CliFault String :=
  if raw then .ok command
  else match Command.read command with
    | .ok c => .ok c.token
    | .error f => .error (.ofKeypad f)

/-- What is wrong before the keypad is touched. -/
def fault? (p : Program) : Option CliFault :=
  match p.task with
  | .send command raw _ =>
    match token? command raw with
    | .ok _ => none
    | .error f => some f
  | .watch true =>
    if p.terminal then none else some (.validation "--interactive" "stdin is not a terminal")
  | _ => none

def start (p : Program) (s : State) : Option (Program × List Move) :=
  match p.fault?, p.task with
  | some f, _ => some (p.finish (.error f), [])
  | none, .config _ | none, .completions _ => some (p.finish (.ok ()), [])
  | none, .watch true => { p with raw := true }.begin s .connect .connecting
  | none, _ => { p with heard := (notices s.history).length }.begin s .connect .connecting

/-- The command once the session is started. -/
def started (p : Program) (s : State) : Program :=
  match p.task with
  | .mode timeout | .send _ _ timeout => p.goTo (.waiting (s.now + timeout * 1000))
  | .watch true =>
    (({ p with heard := (notices s.history).length }.print .keys).print (.mode s.mode none)).goTo
      .watching
  | _ => p.goTo .watching

def afterConnect (p : Program) (s : State) : Reply → Program
  | .ok => p.started s
  | .failed f => p.finish (.error (.ofKeypad f))

/-- Looks for what the command waits for; the time is looked at last. -/
def look (p : Program) (s : State) (deadline : Nat) : Option (Program × List Move) :=
  let orLate (timeout : Nat) (what : String) : Option (Program × List Move) :=
    if deadline ≤ s.now then p.leave s (.failed (.timeout timeout what p.endpoint)) else none
  match p.task with
  | .mode timeout =>
    match s.snapshot with
    | some snap => p.leave s (.mode snap)
    | none => orLate timeout "the first snapshot"
  | .send command raw timeout =>
    if s.published = .connected then
      match token? command raw with
      | .ok token => p.begin s (.command token) (.calling · (.send token))
      | .error f => p.leave s (.failed f)
    else orLate timeout "the connection"
  | _ => none

/-- The command after a call that was not its last. -/
def afterCall (p : Program) (s : State) (purpose : Purpose) (r : Reply) :
    Option (Program × List Move) :=
  match purpose, r with
  | .send token, .ok => p.leave s (.sent token)
  | .send _, .failed f => p.leave s (.failed (.ofKeypad f))
  | .key c, .ok => some ((p.print (.keySent c)).goTo .watching, [])
  | .resync, .ok => some (p.goTo .watching, [])
  | _, .failed f => some ((p.print (.notSent f)).goTo .watching, [])

def press (p : Program) (s : State) (button : Option PanelButton) : Option (Program × List Move) :=
  match button with
  | some b => p.begin s (.command b.command.token) (.calling · (.key b.command))
  | none => some (p.print (.noButton s.mode), [])

/-- Carries out a key. -/
def act (p : Program) (s : State) : KeyAction → Option (Program × List Move)
  | .primary => p.press s s.mode.panel.primary
  | .secondary => p.press s s.mode.panel.secondary
  | .tap a =>
    let (c, gestures) := p.gestures.tap a s.now
    let p := { p with gestures := gestures }.print (.gesture a c)
    if c = .confirmed then p.begin s (.command a.command.token) (.calling · (.key a.command))
    else some (p, [])
  | .resync => p.begin s .sync (.calling · .resync)
  | .quit => p.leave s .ok

/-- Takes what came from the keyboard first. -/
def takeInput (p : Program) (s : State) : Option (Program × List Move) :=
  match p.inputs with
  | [] => none
  | i :: r =>
    let p := { p with inputs := r }
    match i with
    | .pressed k =>
      match KeyAction.ofKey? k with
      | some a => p.act s a
      | none => some (p, [])
    | .other => some (p, [])
    | .failed f => p.leave s (.failed (.io f))
    | .ended => p.leave s .ok

/-- The notices that have not been heard, the first in front. -/
def unheard (p : Program) (s : State) : List Notice :=
  ((notices s.history).take ((notices s.history).length - p.heard)).reverse.map Prod.snd

/-- Prints the next notice; those beyond what a subscriber keeps are passed over. -/
def hear? (p : Program) (s : State) : Option Program :=
  let missed := (p.unheard s).length - noticeCapacity
  match (p.unheard s).drop missed with
  | [] => none
  | n :: _ => some ({ p with heard := p.heard + missed + 1 }.print (.ofNotice n))

/-- Cancels the taps whose time has come. -/
def cancel? (p : Program) (now : Nat) : Option Program :=
  match p.gestures.nextDeadline with
  | some (d, a) =>
    if d ≤ now then
      some ({ p with gestures := p.gestures.cancel a }.print (.gesture a .cancelled))
    else none
  | none => none

def watch (p : Program) (s : State) : Option (Program × List Move) :=
  match p.hear? s, p.cancel? s.now with
  | some p, _ => some (p, [])
  | none, some p => some (p, [])
  | none, none =>
    if p.task = .watch true then p.takeInput s
    else if p.interrupted then p.leave s .ok
    else none

/-- Ends the command. -/
def conclude (p : Program) : Outcome → Program
  | .ok => p.finish (.ok ())
  | .mode s => (p.print (.mode (.ofState s) (some s.alpha))).finish (.ok ())
  | .sent token => (p.print (.sent token)).finish (.ok ())
  | .failed f => p.finish (.error f)

/-- The next step of the command and the moves of the session that it makes, unless it waits. -/
def act? (p : Program) (s : State) : Option (Program × List Move) :=
  match p.phase with
  | .begun => p.start s
  | .connecting id => p.await s id (p.afterConnect s)
  | .waiting deadline => p.look s deadline
  | .watching => p.watch s
  | .calling id purpose =>
    match s.calls.lookup id, replyOf id s.history with
    | none, some r => p.afterCall s purpose r
    | _, _ => if (s.resume? id).isSome then some (p, [.resume id]) else none
  | .leaving id o => p.await s id fun _ => p.conclude o
  | .done _ => none

/-- The next time at which the command acts on its own. -/
def timer? (p : Program) : Option Nat :=
  match p.phase with
  | .waiting deadline => some deadline
  | .watching => p.gestures.nextDeadline.map Prod.fst
  | _ => none

def isDone (p : Program) : Bool :=
  match p.phase with
  | .done _ => true
  | _ => false

/-- The printer of the command: everything an interactive command prints goes to a raw terminal. -/
def printer (p : Program) (q : Printer) : Printer := { q with raw := p.raw }

/-- Everything printed so far. -/
def output (p : Program) (q : Printer) (now : Stamp) : String :=
  String.join (p.prints.reverse.map fun x => (p.printer q).line (x.text (p.printer q) now))

end Program
end AlarmKeypad.Cli
