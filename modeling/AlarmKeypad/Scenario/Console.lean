import AlarmKeypad.Cli.Program
import AlarmKeypad.Scenario.Keypad
/-!
A command at work on a keypad with a scripted device, while someone presses keys.

When both are ready the command acts before the keypad. Everything that is ready at a time is done
before time passes.
-/

namespace AlarmKeypad.Scenario

open Cli

structure Console where
  run : Run
  program : Program

namespace Console

def new (program : Program) (settings : KeypadSettings) (device : Device.Script) : Console :=
  ⟨⟨.new settings device, []⟩, program⟩

def world (c : Console) : World := c.run.world

def withWorld (c : Console) (w : World) : Console := { c with run := { c.run with world := w } }

def now (c : Console) : Nat := c.world.now

/-- A step of the command, if it does not wait. -/
def act? (c : Console) : Option Console :=
  (c.program.act? c.world.session).map fun (p, moves) =>
    { c.withWorld (moves.foldl (fun w m => (w.move? m).getD w) c.world) with program := p }

/-- The steps of the command until it waits; at most `fuel` of them. -/
def actWithin : Nat → Console → Console
  | 0, c => c
  | fuel + 1, c => match c.act? with
    | some c => actWithin fuel c
    | none => c

/-- All that is ready: the command until it waits, then the keypad, and so on. -/
def settleWithin : Nat → Console → Console
  | 0, c => c
  | fuel + 1, c =>
    let c := actWithin World.settleLimit c
    let c := c.withWorld c.world.settle
    if (c.program.act? c.world.session).isSome then settleWithin fuel c else c

/-- The turns that the command and the keypad may take at one time. -/
def turnLimit : Nat := 10000

def settle (c : Console) : Console := settleWithin turnLimit c

/-- The earlier of two times. -/
def earlier? : Option Nat → Option Nat → Option Nat
  | some a, some b => some (min a b)
  | a, b => a.or b

/-- The next time at which something is ready. -/
def timer? (c : Console) : Option Nat := earlier? c.program.timer? c.world.timer?

/-- Passes from timer to timer while they lie before `time`, or at it if `inclusive`, then to `time`
itself, where nothing is done; a command that is done stops it. -/
def passWithin (time : Nat) (inclusive : Bool) : Nat → Console → Console
  | 0, c => c
  | fuel + 1, c =>
    if c.program.isDone then c
    else match c.timer? with
      | some t =>
        if c.now < t ∧ (t < time ∨ inclusive ∧ t = time) then
          passWithin time inclusive fuel (c.withWorld (c.world.elapseTo t)).settle
        else c.withWorld (c.world.elapseTo time)
      | none => c.withWorld (c.world.elapseTo time)

def passTo (c : Console) (time : Nat) (inclusive : Bool) : Console :=
  passWithin time inclusive (time - c.now + 1) c

def press (c : Console) (i : KeyInput) : Console :=
  { c with program := { c.program with inputs := c.program.inputs ++ [i] } }

def interrupt (c : Console) : Console :=
  { c with program := { c.program with interrupted := true } }

/-- Whether nothing more is asked of the console: its command is done, or the limit is reached. -/
def isOver (limit : Nat) (c : Console) : Bool := c.program.isDone || limit ≤ c.now

/-- Resumes a call until it returns; while it waits, the command and the keypad go on. -/
def awaitWithin (limit id : Nat) : Nat → Console → Console
  | 0, c => c
  | fuel + 1, c =>
    if c.isOver limit ∨ (c.world.session.calls.lookup id).isNone then c
    else match c.world.move? (.resume id) with
      | some w => awaitWithin limit id fuel (c.withWorld w)
      | none =>
        let c := c.settle
        if (c.world.session.resume? id).isSome then awaitWithin limit id fuel c
        else match c.timer? with
          | some t =>
            if c.now < t ∧ t < limit then
              awaitWithin limit id fuel (c.withWorld (c.world.elapseTo t)).settle
            else c.passTo limit false
          | none => c.passTo limit false

/-- What a step asks of the keypad. -/
def requestOf? : Step → Option Session.Request
  | .connect => some .connect
  | .shutdown => some .shutdown
  | .command token => some (.command token)
  | .send text =>
    match Command.read text with
    | .ok c => some (.command c.token)
    | .error _ => none
  | .sync => some .sync
  | _ => none

mutual

/-- One step; one that waits does not keep the command from going on. -/
def doStep (limit : Nat) (c : Console) : Step → Console
  | .sleep ms =>
    if c.now + ms < limit then c.passTo (c.now + ms) true else c.passTo limit false
  | .batch steps => doSteps limit c steps
  | s => match requestOf? s with
    | some r =>
      let id := c.world.session.callCount
      awaitWithin limit id World.awaitLimit (c.withWorld ((c.world.move? (.call r)).getD c.world))
    | none => { c with run := (c.run.doStep s).1 }

def doSteps (limit : Nat) (c : Console) : List Step → Console
  | [] => c
  | s :: rest => if c.isOver limit then c else doSteps limit (doStep limit c s) rest

end

/-- What happens around a command. -/
inductive Incident where
  | step (s : Step)
  | input (i : KeyInput)
  | interrupt

def meet (limit : Nat) (c : Console) : Incident → Console
  | .step s => c.doStep limit s
  | .input i => c.press i
  | .interrupt => c.interrupt

/-- Lets the incidents happen at their times, and then waits until `limit`. -/
def play (limit : Nat) (c : Console) : List (Nat × Incident) → Console
  | [] => c.passTo limit false
  | (time, i) :: r =>
    if time < limit then
      let c := c.passTo time true
      if c.isOver limit then c else play limit (c.meet limit i).settle r
    else c.passTo limit false

end Console

/-- A command at work until it is done, or until the limit. -/
def playCommand (program : Program) (settings : KeypadSettings) (device : Device.Script)
    (limit : Nat) (incidents : List (Nat × Console.Incident)) : Console :=
  (Console.new program settings device).settle.play limit incidents

end AlarmKeypad.Scenario
