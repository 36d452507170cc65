import AlarmKeypad.Framing
import AlarmKeypad.Replay.Log
/-!
One client of a replay server: its cursor in the log, and the lines written to it.

Every tick moves the cursor and writes the line under it, unless replay is paused; every ping of the
client is answered at once. Input that is too long or not UTF-8 ends the session.
-/

namespace AlarmKeypad.Replay

/-- A line written to a client. -/
inductive Written where
  | entry (line : String)
  | pong
deriving DecidableEq

/-- The answer to every ping. -/
def pongLine : String := (ControlLine.pong pingMask).render

namespace Written

def line : Written → String
  | entry l => l
  | pong => pongLine

/-- The line as it goes over the wire. -/
def text (w : Written) : String := w.line ++ "\r\n"

end Written

/-- Why a session is over. -/
inductive SessionEnd where
  /-- The client has gone. -/
  | hungUp
  | badInput
  /-- The server has stopped. -/
  | stopped
deriving DecidableEq

structure Session where
  cursor : Cursor
  /-- What the client has sent and the session has not read. -/
  inbound : LineBuffer
  /-- All lines written, the last in front. -/
  written : List Written
  ending : Option SessionEnd
deriving DecidableEq

/-- What happens to a session. -/
inductive SessionInput where
  /-- A tick, while replay is paused or not. -/
  | tick (paused : Bool)
  /-- The client sends bytes. -/
  | bytes (bs : List UInt8)
  | hangUp
  | stop
deriving DecidableEq

/-- What a session meets in one turn of its loop. -/
inductive Turn where
  | tick
  | line (l : String)
  /-- A line that is too long or not UTF-8. -/
  | badInput
  | hangUp
  | stop
deriving DecidableEq

/-- Whether a line is a ping. -/
def isPing (line : String) : Bool :=
  match Message.parse line with
  | .ok (some (.control c)) => c.verb = .ping
  | _ => false

namespace Session

def new : Session := ⟨.start, .new maxLineLength, [], none⟩

def isOpen (s : Session) : Bool := s.ending.isNone

def write (s : Session) (w : Written) : Session := { s with written := w :: s.written }

def close (s : Session) (e : SessionEnd) : Session := { s with ending := some e }

/-- Takes a tick; a paused one moves nothing. -/
def tick (s : Session) (log : Log) (paused : Bool) : Session :=
  if paused then s
  else
    let (line, cursor) := s.cursor.advance log
    let s := { s with cursor := cursor }
    match line with
    | some l => s.write (.entry l)
    | none => s

/-- Takes a line of the client. -/
def hear (s : Session) (line : String) : Session := if isPing line then s.write .pong else s

/-- One turn, with the pause switch as it stands; a session that is over has no more. -/
def turn (log : Log) (paused : Bool) (s : Session) (t : Turn) : Session :=
  if s.isOpen then
    match t with
    | .tick => s.tick log paused
    | .line l => s.hear l
    | .badInput => s.close .badInput
    | .hangUp => s.close .hungUp
    | .stop => s.close .stopped
  else s

/-- Reads the lines that the client has sent whole. -/
def read (s : Session) : Session :=
  match _h : s.inbound.decoder.look s.inbound.bytes with
  | (.line l, d, bs) => { s with inbound := ⟨d, bs⟩ }.hear l |>.read
  | (.tooLong, d, bs) | (.notText, d, bs) => { s with inbound := ⟨d, bs⟩ }.close .badInput
  | (.nothing, d, bs) => { s with inbound := ⟨d, bs⟩ }
termination_by s.inbound.decoder.weight s.inbound.bytes
decreasing_by
  have := LineDecoder.weight_look_lt s.inbound.decoder s.inbound.bytes (by simp [_h])
  simp only [_h] at this
  unfold hear
  split <;> simpa [write] using this

/-- Reads the line without an end that a client has left, if it has left one. -/
def readRest (s : Session) : Session :=
  match s.inbound.decoder.lookLast s.inbound.bytes with
  | (.line l, d, bs) => ({ s with inbound := ⟨d, bs⟩ }.hear l).close .hungUp
  | (.tooLong, d, bs) | (.notText, d, bs) => { s with inbound := ⟨d, bs⟩ }.close .badInput
  | (.nothing, d, bs) => { s with inbound := ⟨d, bs⟩ }.close .hungUp

/-- Reads what a client that has gone has left: whole lines, and then one without an end. -/
def readLast (s : Session) : Session := if s.read.isOpen then s.read.readRest else s.read

/-- The session after one thing; one that is over stays as it is. -/
def step (log : Log) (s : Session) (i : SessionInput) : Session :=
  if s.isOpen then
    match i with
    | .tick paused => s.tick log paused
    | .bytes bs => { s with inbound := s.inbound.append bs }.read
    | .hangUp => s.readLast
    | .stop => s.close .stopped
  else s

/-- The session after all that has happened to it. -/
def run (log : Log) (inputs : List SessionInput) : Session := inputs.foldl (step log) .new

end Session
end AlarmKeypad.Replay
