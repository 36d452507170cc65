import AlarmKeypad.Cli.Printer
import Std.Time
/-!
The time of day.
-/

namespace AlarmKeypad.Network

open Std.Time

/-- The time on the clocks of this place. -/
def localStamp : IO Cli.Stamp := do
  let t ← DateTime.now
  return ⟨t.format "HH:mm:ss", t.format "uuuu-MM-dd'T'HH:mm:ss.SSSSSSSSSxxx"⟩

/-- The time everywhere, for the journal. -/
def journalStamp : IO String := do
  return (← DateTime.nowAt "UTC").format "uuuu-MM-dd'T'HH:mm:ss.SSSSSS'Z'"

end AlarmKeypad.Network
