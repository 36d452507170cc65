import AlarmKeypad.Scenario.World
/-!
Scenarios of calls on a keypad, of what its device does, and of time.
-/

namespace AlarmKeypad.Scenario

open Session

/-- What a device is told to do from now on. -/
structure DeviceChange where
  answer : Option Device.Answer
  answerDelay : Option Nat
  closing : Option (Device.Closing × String)
  refusesLines : Option Bool
  greeting : Option (List String)
deriving DecidableEq

def DeviceChange.apply (c : DeviceChange) (d : Device.Script) : Device.Script :=
  { d with
    answer := c.answer.getD d.answer
    answerDelay := c.answerDelay.getD d.answerDelay
    closing := (c.closing.map Prod.fst).getD d.closing
    closingName := (c.closing.map Prod.snd).getD d.closingName
    refusesLines := c.refusesLines.getD d.refusesLines
    greeting := c.greeting.getD d.greeting }

inductive Step where
  | connect
  | shutdown
  | command (token : String)
  /-- A command by its name. -/
  | send (text : String)
  | sync
  | sleep (ms : Nat)
  | device (c : DeviceChange)
  | push (bytes : List UInt8) (times : Nat)
  | fault
  | hangUp
  | subscribe (id : String)
  | drain (id : String)
  | snapshot
  /-- Steps between which nothing else gets its turn. -/
  | batch (steps : List Step)
  | unknown (name : String)

inductive Answer where
  | none
  | ok
  | fault (f : KeypadFault)
  | snapshot (s : Option Snapshot)
  /-- The notices of a subscriber, after the number of those it has missed. -/
  | notices (missed : Nat) (ns : List Notice)
  | list (as : List Answer)
  | unknown (name : String)

structure Run where
  world : World
  /-- The number of notices that each subscriber has heard of. -/
  subscribers : List (String × Nat)

namespace Run

def answerOf : Option Reply → Answer
  | some (.failed f) => .fault f
  | some .ok => .ok
  | none => .none

def call (r : Run) (q : Request) : Run × Answer :=
  let (w, reply) := r.world.call q
  ({ r with world := w }, answerOf reply)

def alter (r : Run) (f : World → World) : Run × Answer := ({ r with world := f r.world }, .none)

def noticeCount (r : Run) : Nat := (notices r.world.session.history).length

def withSubscriber (r : Run) (id : String) : Run :=
  { r with subscribers := (id, r.noticeCount) :: r.subscribers.filter (·.1 ≠ id) }

/-- What a subscriber has not heard of; beyond its capacity the oldest are missed. -/
def drain (r : Run) (id : String) : Run × Answer :=
  match r.subscribers.lookup id with
  | none => (r, .none)
  | some heard =>
    let news := (notices r.world.session.history).take (r.noticeCount - heard)
    let kept := (news.take noticeCapacity).reverse.map Prod.snd
    (r.withSubscriber id, .notices (news.length - kept.length) kept)

def push (bytes : List UInt8) : Nat → Device.Link → Device.Link
  | 0, l => l
  | n + 1, l => push bytes n (l.push bytes)

mutual

/-- One step, before anything else gets its turn. -/
def doStep (r : Run) : Step → Run × Answer
  | .connect => r.call .connect
  | .shutdown => ((r.call .shutdown).1, .none)
  | .command token => r.call (.command token)
  | .send text =>
    match Command.read text with
    | .ok c => r.call (.command c.token)
    | .error f => (r, .fault f)
  | .sync => r.call .sync
  | .sleep ms => r.alter fun w => w.passTo (w.now + ms)
  | .device c => r.alter fun w => { w with device := c.apply w.device }
  | .push bytes times => r.alter fun w => w.onLink (push bytes times)
  | .fault => r.alter fun w => w.onLink Device.Link.fault
  | .hangUp => r.alter fun w => w.onLink Device.Link.hangUp
  | .subscribe id => (r.withSubscriber id, .none)
  | .drain id => r.drain id
  | .snapshot => (r, .snapshot r.world.session.snapshot)
  | .batch steps =>
    let (r, as) := doSteps r steps
    (r, .list as)
  | .unknown name => (r, .unknown name)

def doSteps (r : Run) : List Step → Run × List Answer
  | [] => (r, [])
  | s :: rest =>
    let (r, a) := doStep r s
    let (r, as) := doSteps r rest
    (r, a :: as)

end

/-- A step and all that it makes ready. -/
def perform (r : Run) (s : Step) : Run × Answer :=
  let (r, a) := r.doStep s
  ({ r with world := r.world.settle }, a)

end Run

/-- What is seen after a step. -/
structure Report where
  answer : Answer
  time : Nat
  state : ConnectionState
  mode : DisplayMode
  alpha : Option String
  /-- The notices since the step before. -/
  notices : List (Nat × Notice)
  /-- What the device has seen since the step before. -/
  sights : List (Nat × Sight)

/-- The elements in front of the last `n`, the last first. -/
def newer {α : Type} (xs : List α) (n : Nat) : List α := (xs.take (xs.length - n)).reverse

def report (r : Run) (s : Step) : Run × Report :=
  let (r', answer) := r.perform s
  let w := r'.world
  (r',
    { answer
      time := w.now
      state := w.session.published
      mode := w.session.mode
      alpha := w.session.snapshot.map Snapshot.alpha
      notices := newer (Session.notices w.session.history) r.noticeCount
      sights := newer w.sights r.world.sights.length })

/-- The reports of all steps. -/
def reports (r : Run) : List Step → List Report
  | [] => []
  | s :: rest =>
    let (r, x) := report r s
    x :: reports r rest

def play (settings : KeypadSettings) (device : Device.Script) (steps : List Step) : List Report :=
  reports ⟨.new settings device, []⟩ steps

end AlarmKeypad.Scenario
