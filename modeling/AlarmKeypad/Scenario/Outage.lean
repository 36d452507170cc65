import AlarmKeypad.Session.Move
import AlarmKeypad.Session.Notice
/-!
A keypad while no way leads to its device: every attempt to connect fails.

Time passes in jumps. The network answers only between jumps, so an attempt that begins within a
jump fails at its end.
-/

namespace AlarmKeypad.Scenario.Outage

open Session

/-- The steps of a session that waits for nothing; at most `fuel` of them. -/
def act : Nat → State → State
  | 0, s => s
  | fuel + 1, s => match s.act? with
    | some s => act fuel s
    | none => s

/-- The steps that a session may take at one time. -/
def actLimit : Nat := 1000

/-- The session acts, and the network answers, until the session waits for time. -/
def settleWithin : Nat → State → State
  | 0, s => s
  | fuel + 1, s =>
    let s := act actLimit s
    match s.refused? with
    | some s => settleWithin fuel s
    | none => s

def settle (s : State) : State := settleWithin actLimit s

def elapse (s : State) (ms : Nat) : State := (s.elapse? ms).getD s

/-- Time passes at one go. -/
def jump (s : State) (ms : Nat) : State :=
  let time := s.now + ms
  match s.timer? with
  | some t =>
    if t ≤ time then
      let s := act actLimit (elapse s (t - s.now))
      settle (elapse s (time - s.now))
    else elapse s ms
  | none => elapse s ms

def jumps (ms : Nat) : Nat → State → State
  | 0, s => s
  | n + 1, s => jumps ms n (jump s ms)

/-- Resumes a call until it returns. -/
def await (id : Nat) : Nat → State → State
  | 0, s => s
  | fuel + 1, s => match s.resume? id with
    | some s => await id fuel (settle s)
    | none => s

/-- The steps of one call. -/
def callLimit : Nat := 4

/-- A call, and all that it makes ready. -/
def call (s : State) (r : Request) : State × Option Reply :=
  let id := s.callCount
  let s := await id callLimit (settle (s.call r))
  (s, replyOf id s.history)

inductive Step where
  | request (r : Request)
  /-- Jumps of the same length. -/
  | jumps (ms times : Nat)
  /-- The device waits for a connection. -/
  | accept
  /-- The device sends something. -/
  | send
  /-- Something at the device that asks for no connection. -/
  | apart
deriving DecidableEq

inductive Answer where
  | none
  | reply (r : Option Reply)
  /-- Whether a connection waited. -/
  | waiting (w : Bool)
  /-- No connection has reached the device. -/
  | noDevice
deriving DecidableEq

def perform (s : State) : Step → State × Answer
  | .request r =>
    let (s, reply) := call s r
    (s, .reply reply)
  | .jumps ms times => (jumps ms times s, .none)
  | .accept => (s, .waiting false)
  | .send => (s, .noDevice)
  | .apart => (s, .none)

/-- What is seen of the keypad after a step. -/
structure Report where
  answer : Answer
  state : ConnectionState
  mode : DisplayMode
  alpha : Option String
  /-- The notices since the step before. -/
  notices : List Notice

def report (s : State) (step : Step) : State × Report :=
  let (s', answer) := perform s step
  let news := s'.history.take (s'.history.length - s.history.length)
  (s',
    { answer
      state := s'.published
      mode := s'.mode
      alpha := s'.snapshot.map Snapshot.alpha
      notices := (notices news).reverse.map Prod.snd })

/-- The reports of all steps. -/
def reports (s : State) : List Step → List Report
  | [] => []
  | step :: r =>
    let (s, x) := report s step
    x :: reports s r

def play (settings : KeypadSettings) (steps : List Step) : List Report :=
  reports (.init settings) steps

end AlarmKeypad.Scenario.Outage
