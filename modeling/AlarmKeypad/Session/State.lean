import AlarmKeypad.DisplayMode
import AlarmKeypad.Fault.Keypad
import AlarmKeypad.Interval
import AlarmKeypad.Message
import AlarmKeypad.Settings
/-!
The state of a keypad: its one connection, the calls on it and all that has happened.

A session goes round: an attempt to connect, a connection, a delay. It owns the connection and the
heartbeat. Callers see the published state and put lines into a queue.
-/

namespace AlarmKeypad

/-- What callers see of the connection. -/
inductive ConnectionState where
  | disconnected
  | connecting
  | connected
  | closing
deriving DecidableEq

def ConnectionState.name : ConnectionState → String
  | disconnected => "disconnected"
  | connecting => "connecting"
  | connected => "connected"
  | closing => "closing"

namespace Session

/-- Lines that wait for the connection, at most. -/
def queueSize : Nat := 64

/-- The time that closing a connection may take. -/
def closeTimeout : Nat := 2000

/-- A line in the queue and the call that put it there. -/
structure Ticket where
  call : Nat
  line : String
deriving DecidableEq

/-- Why a connection is over. -/
inductive Ending where
  /-- The device ended the stream. -/
  | hungUp
  /-- The stream failed, or a line could not be handed over. -/
  | failed
  | shutdown
deriving DecidableEq

/-- Where the session stands. -/
inductive Phase where
  /-- Not started. -/
  | idle
  | starting
  /-- About to open a connection. -/
  | dialing
  /-- Waiting for the connection to open. -/
  | opening
  /-- Open; lines queued for an earlier connection are dropped. -/
  | draining
  | announcing
  /-- Handing over the first line. -/
  | greeting
  /-- Connected; the next heartbeat is due at the time given. -/
  | live (heartbeat : Nat)
  /-- Handing over a line of the queue. -/
  | sending (t : Ticket) (heartbeat : Nat)
  /-- Handing over a heartbeat. -/
  | pinging (heartbeat : Nat)
  /-- Shutting down; the queue still goes out. -/
  | flushing
  | flushSending (t : Ticket)
  | ended (e : Ending)
  /-- Closing the connection until the time given. -/
  | closing (deadline : Nat)
  /-- The connection is gone. -/
  | leaving
  | parted
  /-- Waiting for the next attempt. -/
  | resting (deadline : Nat)
  | finished
  /-- The heartbeat could not be set. -/
  | crashed
deriving DecidableEq

/-- Whether the session has left for good; nothing takes lines from the queue any more. -/
def Phase.IsOver (p : Phase) : Prop := p = .finished ∨ p = .crashed

instance (p : Phase) : Decidable p.IsOver := inferInstanceAs (Decidable (_ ∨ _))

inductive Request where
  | connect
  | shutdown
  /-- A command as it goes over the wire; an empty one asks for nothing. -/
  | command (token : String)
  | sync
deriving DecidableEq

inductive Reply where
  | ok
  | failed (f : KeypadFault)
deriving DecidableEq

/-- A call between its steps. -/
inductive Call where
  /-- Found the keypad not shut down. -/
  | connecting
  /-- Has told the session to stop. -/
  | stopping
  /-- Waits for the session to end. -/
  | joining
  /-- Found the keypad connected; waits for room in the queue. -/
  | queueing (line : String)
deriving DecidableEq

/-- Why a line goes over the wire. -/
inductive Source where
  | greeting
  | heartbeat
  | call (id : Nat)
deriving DecidableEq

/-- What happens in a session. Connections count from one. -/
inductive Event where
  | called (id : Nat) (r : Request)
  | returned (id : Nat) (r : Reply)
  | spawned
  | published (s : ConnectionState)
  | attempted (n : Nat)
  | opened (connection : Nat)
  | refused
  | queued (t : Ticket)
  /-- A line for an earlier connection is dropped. -/
  | stale (t : Ticket)
  /-- No line for an earlier connection is left. -/
  | drained (connection : Nat)
  | handed (connection : Nat) (source : Source) (line : String)
  | handFailed (connection : Nat) (source : Source) (line : String)
  | received (connection : Nat) (line : String)
  | modeChanged (c : ModeChange)
  | faulted (connection : Nat)
  | hungUp (connection : Nat)
  | closing (connection : Nat)
  | dropped (connection : Nat)
deriving DecidableEq

/-- An event and its time. -/
structure Stamped where
  time : Nat
  event : Event
deriving DecidableEq

structure State where
  settings : KeypadSettings
  now : Nat
  phase : Phase
  /-- Whether shutdown has been called. -/
  cancelled : Bool
  /-- Whether the session is there to be joined. -/
  joinable : Bool
  published : ConnectionState
  /-- What callers see of the mode. -/
  mode : DisplayMode
  /-- The mode that the session has told last. -/
  tracker : DisplayMode
  snapshot : Option Snapshot
  /-- The lines that wait, the first to go in front. -/
  queue : List Ticket
  /-- The calls that have not returned. -/
  calls : List (Nat × Call)
  /-- The number of calls so far. -/
  callCount : Nat
  attempts : Nat
  connections : Nat
  /-- All events, the last in front. -/
  history : List Stamped
deriving DecidableEq

namespace State

def init (settings : KeypadSettings) : State where
  settings
  now := 0
  phase := .idle
  cancelled := false
  joinable := false
  published := .disconnected
  mode := .unknown
  tracker := .unknown
  snapshot := none
  queue := []
  calls := []
  callCount := 0
  attempts := 0
  connections := 0
  history := []

/-- The state after an event. -/
def record (s : State) (e : Event) : State := { s with history := ⟨s.now, e⟩ :: s.history }

def goTo (s : State) (p : Phase) : State := { s with phase := p }

/-- Publishes a connection state; one that is published already makes no event. -/
def publish (s : State) (c : ConnectionState) : State :=
  if s.published = c then s else { s with published := c }.record (.published c)

/-- Takes in a line from the device: a snapshot replaces the last one and may change the mode; any
other line is dropped. -/
def ingest (s : State) (line : String) : State :=
  let s := s.record (.received s.connections line)
  match Snapshot.ofLine? line with
  | none => s
  | some snap =>
    let (tracker, change) := s.tracker.observe (some snap)
    let s := { s with tracker := tracker, snapshot := some snap }
    match change with
    | none => s
    | some c => { s with mode := c.after }.record (.modeChanged c)

/-- The connection is dropped. -/
def drop (s : State) : State := s.record (.dropped s.connections)

end State
end Session
end AlarmKeypad
