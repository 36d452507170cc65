import AlarmKeypad.Session.State
/-!
The moves of a keypad.

`act?` is the next step that the session takes on its own. All else comes from outside: time, calls,
and what the device does. Waiting for a device or a timer, the session takes no step, so time passes
only then, and never beyond a timer.

Where a session waits for several things, one move is one whole poll: the look for a call for
shutdown and what is taken because there was none. Calls come between moves, as they do when the
session and its callers take turns on one thread. With callers on other threads a call may also come
in the middle of a poll; `Polled` has the two parts of a poll as steps of their own.
-/

namespace AlarmKeypad.Session

inductive Move where
  /-- Time passes. -/
  | elapse (ms : Nat)
  /-- A new call takes its first step. -/
  | call (r : Request)
  /-- A call takes its next step. -/
  | resume (id : Nat)
  /-- The session takes a step. -/
  | act
  | opened
  | refused
  /-- The line has gone over the wire. -/
  | handed
  | handFailed
  | received (line : String)
  | faulted
  | hungUp
  /-- The connection has closed. -/
  | closed
deriving DecidableEq

namespace State

/-- When the heartbeat after one that was due at `deadline` is due. -/
def nextHeartbeat (s : State) (deadline : Nat) : Nat :=
  nextTick s.settings.heartbeat deadline s.now

/-- The next step of the session, unless it waits. -/
def act? (s : State) : Option State :=
  match s.phase with
  | .idle | .greeting | .sending .. | .pinging _ | .flushSending _ | .finished | .crashed => none
  | .starting => some ((s.publish .connecting).goTo .dialing)
  | .dialing =>
    if s.cancelled then some (s.goTo .leaving)
    else
      some (({ s with attempts := s.attempts + 1 }.record (.attempted (s.attempts + 1))).goTo
        .opening)
  | .opening => if s.cancelled then some (s.goTo .leaving) else none
  | .draining =>
    match s.queue with
    | [] => some ((s.record (.drained s.connections)).goTo .announcing)
    | t :: r => some ({ s with queue := r }.record (.stale t))
  | .announcing => some ((s.publish .connected).goTo .greeting)
  | .live d =>
    if s.cancelled then some (s.goTo .flushing)
    else match s.queue with
      | t :: r => some ({ s with queue := r }.goTo (.sending t d))
      | [] => if d ≤ s.now then some (s.goTo (.pinging (s.nextHeartbeat d))) else none
  | .flushing =>
    match s.queue with
    | [] => some (s.goTo (.ended .shutdown))
    | t :: r => some ({ s with queue := r }.goTo (.flushSending t))
  | .ended .hungUp => some (s.drop.goTo .leaving)
  | .ended .failed | .ended .shutdown =>
    some (((s.publish .closing).record (.closing s.connections)).goTo
      (.closing (s.now + closeTimeout)))
  | .closing d => if d ≤ s.now then some (s.drop.goTo .leaving) else none
  | .leaving => some ((s.publish .disconnected).goTo .parted)
  | .parted =>
    some (s.goTo (if s.cancelled then .finished else .resting (s.now + s.settings.reconnectDelay)))
  | .resting d =>
    if s.cancelled then some (s.goTo .finished)
    else if d ≤ s.now then some (s.goTo .starting)
    else none

/-- The next time at which the session acts on its own. -/
def timer? (s : State) : Option Nat :=
  match s.phase with
  | .live d | .closing d | .resting d => some d
  | _ => none

def elapse? (s : State) (ms : Nat) : Option State :=
  if s.act? = none ∧ ∀ d ∈ s.timer?, s.now + ms ≤ d then some { s with now := s.now + ms } else none

def returned (s : State) (id : Nat) (r : Reply) : State :=
  { s with calls := s.calls.filter (·.1 ≠ id) }.record (.returned id r)

def waiting (s : State) (id : Nat) (c : Call) : State :=
  { s with calls := (id, c) :: s.calls.filter (·.1 ≠ id) }

/-- A line for the queue, which only a connected keypad takes. -/
def offer (s : State) (id : Nat) (line : String) : State :=
  if s.published = .connected then s.waiting id (.queueing line)
  else s.returned id (.failed .notConnected)

/-- The first step of a call. -/
def call (s : State) (r : Request) : State :=
  let id := s.callCount
  let s := { s with callCount := id + 1 }.record (.called id r)
  match r with
  | .connect =>
    if s.cancelled then s.returned id (.failed .shutDown) else s.waiting id .connecting
  | .shutdown => { s with cancelled := true }.waiting id .stopping
  | .command token =>
    if token = "" then s.returned id .ok else s.offer id (ControlLine.send token).render
  | .sync => s.offer id s.settings.syncLine

/-- The next step of a call, unless it waits. -/
def resume? (s : State) (id : Nat) : Option State :=
  match s.calls.lookup id with
  | none => none
  | some .connecting =>
    if s.joinable then some (s.returned id .ok)
    else if s.phase = .idle then
      some (({ s with phase := .starting, joinable := true }.record .spawned).returned id .ok)
    else some (s.returned id (.failed .shutDown))
  | some .stopping =>
    if s.joinable then some ({ s with joinable := false }.waiting id .joining)
    else some (s.returned id .ok)
  | some .joining => if s.phase.IsOver then some (s.returned id .ok) else none
  | some (.queueing line) =>
    if s.phase.IsOver then some (s.returned id (.failed .notConnected))
    else if s.queue.length < queueSize then
      let t : Ticket := ⟨id, line⟩
      some (({ s with queue := s.queue ++ [t] }.record (.queued t)).returned id .ok)
    else none

def opened? (s : State) : Option State :=
  if s.phase = .opening ∧ ¬s.cancelled then
    some (({ s with connections := s.connections + 1 }.record (.opened (s.connections + 1))).goTo
      .draining)
  else none

def refused? (s : State) : Option State :=
  if s.phase = .opening ∧ ¬s.cancelled then some ((s.record .refused).goTo .leaving) else none

/-- Sets the heartbeat of a connection whose first line has gone out. -/
def setHeartbeat (s : State) : State :=
  if s.settings.HasHeartbeat s.now then s.goTo (.live (s.now + s.settings.heartbeat))
  else s.drop.goTo .crashed

/-- The line that is being handed over, and why. -/
def pending? (s : State) : Option (Source × String) :=
  match s.phase with
  | .greeting => some (.greeting, s.settings.syncLine)
  | .sending t _ | .flushSending t => some (.call t.call, t.line)
  | .pinging _ => some (.heartbeat, s.settings.pingLine)
  | _ => none

/-- Where the session goes on after a line has been handed over. -/
def afterHanding (s : State) : State :=
  match s.phase with
  | .greeting => s.setHeartbeat
  | .sending _ d | .pinging d => s.goTo (.live d)
  | .flushSending _ => s.goTo .flushing
  | _ => s

def handed? (s : State) : Option State :=
  s.pending?.map fun (source, line) =>
    (s.record (.handed s.connections source line)).afterHanding

def handFailed? (s : State) : Option State :=
  s.pending?.map fun (source, line) =>
    (s.record (.handFailed s.connections source line)).goTo (.ended .failed)

/-- Whether the session takes what comes from the device. -/
def Listens (s : State) : Prop := (∃ d, s.phase = .live d) ∧ ¬s.cancelled

def listens (s : State) : Bool :=
  match s.phase with
  | .live _ => !s.cancelled
  | _ => false

theorem listens_iff (s : State) : s.listens = true ↔ s.Listens := by
  unfold listens Listens
  split <;> simp_all

instance (s : State) : Decidable s.Listens := decidable_of_iff _ s.listens_iff

def received? (s : State) (line : String) : Option State :=
  if s.Listens then some (s.ingest line) else none

def faulted? (s : State) : Option State :=
  if s.Listens then some ((s.record (.faulted s.connections)).goTo (.ended .failed)) else none

def hungUp? (s : State) : Option State :=
  if s.Listens then some ((s.record (.hungUp s.connections)).goTo (.ended .hungUp)) else none

def closed? (s : State) : Option State :=
  match s.phase with
  | .closing _ => some (s.drop.goTo .leaving)
  | _ => none

/-- The state after a move, if the move is possible. -/
def move? (s : State) : Move → Option State
  | .elapse ms => s.elapse? ms
  | .call r => some (s.call r)
  | .resume id => s.resume? id
  | .act => s.act?
  | .opened => s.opened?
  | .refused => s.refused?
  | .handed => s.handed?
  | .handFailed => s.handFailed?
  | .received line => s.received? line
  | .faulted => s.faulted?
  | .hungUp => s.hungUp?
  | .closed => s.closed?

end State
end AlarmKeypad.Session
