import AlarmKeypad.Journal
import AlarmKeypad.Session.State
/-!
What a session writes into the journal.
-/

namespace AlarmKeypad.Session

open Journal

def entryOfLine (line : String) : Option Entry :=
  match Message.parse line with
  | .ok none | .ok (some (.state _)) => none
  | .ok (some (.control c)) =>
    if c.verb = .pong then some ⟨.debug, "PONG received, device is alive", [("mask", c.payload)]⟩
    else some ⟨.debug, "ignoring control line", [("line", quote line)]⟩
  | .error f@(.malformedSnapshot ..) =>
    some ⟨.warning, "dropping malformed snapshot, keeping last good state", [("error", f.message)]⟩
  | .error f => some ⟨.debug, "dropping unrecognized line", [("error", f.message)]⟩

/-- The entry of an event on a keypad; `endpoint` names its device. -/
def entryOfEvent (endpoint : String) : Event → Option Entry
  | .published s => some ⟨.debug, "connection state", [("to", s.name)]⟩
  | .attempted _ => some ⟨.info, "connecting", [("endpoint", endpoint)]⟩
  | .refused => some ⟨.warning, "connection attempt failed", [("endpoint", endpoint)]⟩
  | .opened _ => some ⟨.info, "transport open", [("endpoint", endpoint)]⟩
  | .handed _ .greeting _ => some ⟨.debug, "sending SYNC", []⟩
  | .handed _ .heartbeat _ => some ⟨.debug, "sending PING", []⟩
  | .handed _ (.call _) line => some ⟨.debug, "sending", [("line", line)]⟩
  | .received _ line => entryOfLine line
  | .modeChanged c =>
    some ⟨.info, "display mode changed", [("from", c.before.name), ("to", c.after.name)]⟩
  | .hungUp _ => some ⟨.info, "transport closed by peer", [("endpoint", endpoint)]⟩
  | .faulted _ | .handFailed .. =>
    some ⟨.warning, "transport error, closing", [("endpoint", endpoint)]⟩
  | .called .. | .returned .. | .spawned | .queued _ | .stale _ | .drained _ | .closing _
  | .dropped _ => none

/-- The entries of events. -/
def entries (endpoint : String) (es : List Event) : List Entry :=
  es.filterMap (entryOfEvent endpoint)

end AlarmKeypad.Session
