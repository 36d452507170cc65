import AlarmKeypad.Cli.Exit
import AlarmKeypad.Scenario.Console
import AlarmKeypad.Session.Journal
/-!
The keypad's program from its command line to its end, with a scripted device.
-/

namespace AlarmKeypad.Scenario

open Cli

/-- How long a task takes at most, if it ends on its own, in milliseconds. -/
def taskLimit : Task → Nat
  | .mode timeout | .send _ _ timeout => (timeout + 1) * 1000
  | .watch _ | .config _ | .completions _ => 1

/-- How the program ends, unless it goes on until it is interrupted. -/
def exit? (device : Device.Script) (args : List String) (s : Surroundings) (now : Stamp) :
    Option Exit :=
  let start := Errand.read args s
  let color := Journal.isColored (s.environment.lookup "NO_COLOR")
  let journal (es : List Journal.Entry) : String := Journal.text color start.rank now.instant es
  match start.errand with
  | .ended e => some (e.after (journal start.entries))
  | .keypad p printer c =>
    let console := playCommand p c.settings device (taskLimit p.task) []
    let events := console.world.session.history.reverse.map Session.Stamped.event
    let news := Session.entries p.endpoint events
    (console.program.exit? printer now).map (·.after (journal (start.entries ++ news)))

/-- A device that no connection reaches. -/
def offlineDevice : Device.Script := { Device.Script.default with answer := .refuse }

def offlineExit? (args : List String) (s : Surroundings) (now : Stamp) : Option Exit :=
  exit? offlineDevice args s now

end AlarmKeypad.Scenario
