import AlarmKeypad.Scenario.Console
import AlarmKeypad.Session.Journal
/-!
A command at work on a keypad whose device is elsewhere: the console is told what comes from there,
and says what is to be done there.
-/

namespace AlarmKeypad.Scenario

open Cli Session

/-- A device that does nothing until the console is told so. -/
def remoteDevice (k : TransportKind) : Device.Script :=
  { Device.Script.default with stream := k = .tcp, answer := .never }

/-- What comes to a console. -/
inductive Arrival where
  | opened
  | refused
  /-- Bytes of a stream, or those of a line that stands alone. -/
  | bytes (bs : List UInt8)
  | hungUp
  | faulted
  | input (i : KeyInput)
  | interrupt

/-- What a console has done: for the device, for the reader of its output, and for the journal. -/
structure News where
  sights : List Sight
  prints : List Print
  events : List Event

namespace Console

/-- A move of the keypad, if it is possible. -/
def moved (c : Console) (m : Move) : Console := c.withWorld ((c.world.move? m).getD c.world)

def arrive (c : Console) : Arrival → Console
  | .opened => (c.moved .opened).settle
  | .refused => (c.moved .refused).settle
  | .bytes bs => (c.withWorld (c.world.onLink (·.push bs))).settle
  | .hungUp => (c.withWorld (c.world.onLink Device.Link.hangUp)).settle
  | .faulted => (c.moved .faulted).settle
  | .input i => (c.press i).settle
  | .interrupt => c.interrupt.settle

/-- Whether nothing asks any more for what has happened. -/
def isQuiet (c : Console) : Bool :=
  match c.program.phase with
  | .watching => (c.program.unheard c.world.session).isEmpty && c.world.session.calls.isEmpty
  | _ => false

/-- Drops what has happened, so that a long watch does not grow. -/
def forget (c : Console) : Console :=
  if c.isQuiet then
    { c.withWorld { c.world with session := { c.world.session with history := [] } } with
      program := { c.program with heard := 0 } }
  else c

/-- What has been done since `heard` events, and the console without it. -/
def takeNews (c : Console) (heard : Nat) : News × Console :=
  ( { sights := (c.world.sights.map Prod.snd).reverse
      prints := c.program.prints.reverse
      events := (newer c.world.session.history heard).map Stamped.event },
    { c.withWorld { c.world with sights := [] } with program := { c.program with prints := [] } })

end Console
end AlarmKeypad.Scenario
