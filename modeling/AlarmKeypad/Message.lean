import AlarmKeypad.Control
import AlarmKeypad.Snapshot
/-!
Lines from the device: a snapshot, a control line or nothing.
-/

namespace AlarmKeypad

inductive Message where
  | state (s : Snapshot)
  | control (c : ControlLine)
deriving DecidableEq

/-- Why a line is dropped. -/
inductive LineFault where
  /-- It starts like a snapshot and is none. -/
  | malformedSnapshot (reason line : String)
  | unrecognized (line : String)
deriving DecidableEq

namespace LineFault

def message : LineFault → String
  | malformedSnapshot reason _ => "Malformed state snapshot: " ++ reason
  | unrecognized line => "Unrecognized line: " ++ line

end LineFault

/-- The end of a line, however the sender writes it. -/
def isLineEnd (c : Char) : Bool := c == '\r' || c == '\n'

namespace Message

/-- A line without its end, decoded by its first character; an empty line carries no message. -/
def parseBody (cs : List Char) : Except LineFault (Option Message) :=
  match cs with
  | [] => .ok none
  | '\x7b' :: _ =>
    match Snapshot.parse? cs with
    | some s => .ok (some (.state s))
    | none => .error (.malformedSnapshot "not a snapshot object" (String.ofList cs))
  | '!' :: body => .ok (some (.control (.ofBody body)))
  | _ => .error (.unrecognized (String.ofList cs))

def parse (line : String) : Except LineFault (Option Message) :=
  parseBody (Text.dropEndWhile isLineEnd line.toList)

end Message

namespace Snapshot

/-- The snapshot that a line carries, if it carries one. -/
def ofLine? (line : String) : Option Snapshot :=
  match Message.parse line with
  | .ok (some (.state s)) => some s
  | _ => none

end Snapshot
end AlarmKeypad
