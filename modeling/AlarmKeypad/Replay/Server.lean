import AlarmKeypad.Interval
import AlarmKeypad.Replay.Session
/-!
A replay server: sessions that share a log and a pause switch. The ticks of a session count from its
own beginning.
-/

namespace AlarmKeypad.Replay

/-- The time between the lines of a session where none is given. -/
def defaultInterval : Nat := 800

/-- The port of a server where none is given. -/
def defaultPort : UInt16 := 10000

/-- The session of a client and when its next tick is due. -/
structure Client where
  name : String
  session : Session
  due : Nat
deriving DecidableEq

/-- What keeps a client from its server. -/
inductive Barrier where
  | refused
  /-- No way leads to the server. -/
  | unreachable
deriving DecidableEq

structure Server where
  log : Log
  interval : Nat
  interval_pos : 0 < interval
  /-- Whether clients find a way to the server. -/
  reachable : Bool
  now : Nat
  paused : Bool
  stopped : Bool
  clients : List Client

namespace Server

/-- A server with a time between lines, at least a millisecond. -/
def new (log : Log) (interval : Nat) (reachable : Bool) : Server where
  log
  interval := max interval 1
  interval_pos := by omega
  reachable
  now := 0
  paused := false
  stopped := false
  clients := []

def client? (s : Server) (name : String) : Option Client := s.clients.find? (·.name = name)

def isConnected (s : Server) (name : String) : Bool :=
  match s.client? name with
  | some c => c.session.isOpen
  | none => false

/-- A new client, or one that comes again. -/
def connect (s : Server) (name : String) : Except Barrier Server :=
  if !s.reachable then .error .unreachable
  else if s.stopped then .error .refused
  else
    let c : Client := ⟨name, .new, s.now + s.interval⟩
    .ok { s with clients := s.clients.filter (·.name ≠ name) ++ [c] }

/-- Something happens to the session of a client. -/
def feed (s : Server) (name : String) (i : SessionInput) : Server :=
  { s with clients := s.clients.map fun c =>
      if c.name = name then { c with session := c.session.step s.log i } else c }

def send (s : Server) (name : String) (bytes : List UInt8) : Server := s.feed name (.bytes bytes)

def disconnect (s : Server) (name : String) : Server := s.feed name .hangUp

def setPaused (s : Server) (on : Bool) : Server := { s with paused := on }

def toggle (s : Server) : Server := s.setPaused !s.paused

/-- Ends every session and lets no more clients in. -/
def stop (s : Server) : Server :=
  { s with
    stopped := true
    clients := s.clients.map fun c => { c with session := c.session.step s.log .stop } }

/-- All ticks of a client that are due. -/
def ticks (s : Server) (c : Client) : Client :=
  if _h : c.due ≤ s.now then
    s.ticks
      { c with
        session := c.session.step s.log (.tick s.paused)
        due := nextTick s.interval c.due s.now }
  else c
termination_by s.now + 1 - c.due
decreasing_by
  have := lt_nextTick c.due s.now s.interval_pos
  omega

/-- Time passes at one go; ticks that have been passed over are not made up for. -/
def advance (s : Server) (ms : Nat) : Server :=
  let s := { s with now := s.now + ms }
  { s with clients := s.clients.map s.ticks }

def advanceBy (ms : Nat) : Nat → Server → Server
  | 0, s => s
  | n + 1, s => advanceBy ms n (s.advance ms)

/-- The number of lines written to a client. -/
def writtenTo (s : Server) (name : String) : Nat :=
  match s.client? name with
  | some c => c.session.written.length
  | none => 0

/-- What clients receive between two states of a server. -/
def received (before after : Server) : List (String × String) :=
  (after.clients.map fun c =>
    let news := c.session.written.take (c.session.written.length - before.writtenTo c.name)
    (c.name, String.join (news.reverse.map Written.text))).filter (·.2 ≠ "")

/-- The clients that the server drops between two states. -/
def droppedClients (before after : Server) : List String :=
  (after.clients.filter fun c =>
    before.isConnected c.name && !c.session.isOpen && c.session.ending != some .hungUp).map
    Client.name

/-- The server without what its sessions have written and without clients that are gone. -/
def forget (s : Server) : Server :=
  { s with clients := (s.clients.filter (·.session.isOpen)).map fun c =>
      { c with session := { c.session with written := [] } } }

end Server
end AlarmKeypad.Replay
