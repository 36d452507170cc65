import AlarmKeypad.Device
import AlarmKeypad.Session.Move
import AlarmKeypad.Session.Notice
/-!
A keypad and a scripted device under one clock.

All that is ready at a time is done before time passes; then it goes straight to the next timer.
What comes from the device is taken before lines of the queue, and those before a heartbeat.
-/

namespace AlarmKeypad.Scenario

open Session

/-- An attempt to connect that the device has not answered. -/
structure Attempt where
  ready : Nat
  answer : Device.Answer
  link : Device.Link
deriving DecidableEq

/-- What a device sees of a keypad. -/
inductive Sight where
  | attempt (n : Nat)
  | line (connection : Nat) (s : String)
  | lineFailed (connection : Nat) (s : String)
  | closing (connection : Nat) (how : String)
  | dropped (connection : Nat)
deriving DecidableEq

structure World where
  session : State
  device : Device.Script
  attempt : Option Attempt
  link : Option Device.Link
  /-- What the device has seen and when, the last in front. -/
  sights : List (Nat × Sight)
deriving DecidableEq

namespace World

def new (settings : KeypadSettings) (device : Device.Script) : World :=
  ⟨.init settings, device, none, none, []⟩

def now (w : World) : Nat := w.session.now

def see (w : World) (time : Nat) (s : Sight) : World := { w with sights := (time, s) :: w.sights }

/-- The lines that a device reads from a stream for one line of the keypad. -/
def streamLines (line : String) : List String :=
  (Text.splitAll '\n' line.toList).map fun l => String.ofList (l ++ ['\n'])

/-- What an event of the session means for the device. -/
def observe (w : World) (e : Stamped) : World :=
  match e.event with
  | .attempted n =>
    { w with attempt := some ⟨e.time + w.device.answerDelay, w.device.answer, w.device.accept⟩ }.see
      e.time (.attempt n)
  | .opened _ => { w with link := w.attempt.map Attempt.link, attempt := none }
  | .handed c _ line =>
    if w.device.stream then
      (streamLines line).foldl (fun w l => w.see e.time (.line c l)) w
    else w.see e.time (.line c line)
  | .handFailed c _ line => w.see e.time (.lineFailed c line)
  | .closing c =>
    if w.device.stream then w else w.see e.time (.closing c w.device.closingName)
  | .dropped c => { w with link := none }.see e.time (.dropped c)
  | _ => w

/-- A move of the keypad, and what the device sees of it. -/
def move? (w : World) (m : Move) : Option World :=
  (w.session.move? m).map fun s =>
    let news := s.history.take (s.history.length - w.session.history.length)
    news.foldr (fun e w => w.observe e) { w with session := s }

def moveOf : Device.Item → Move
  | .line s => .received s
  | .fault => .faulted
  | .hangUp => .hungUp

/-- The keypad reads what comes next from the device. -/
def read? (w : World) : Option World :=
  if w.session.Listens then do
    let (item, link) ← (← w.link).next?
    { w with link := some link }.move? (moveOf item)
  else none

/-- The device answers the attempt, takes the line or closes. -/
def respond? (w : World) : Option World :=
  match w.session.phase with
  | .opening => do
    let a ← w.attempt
    if a.ready ≤ w.now then
      match a.answer with
      | .accept => w.move? .opened
      | .refuse => w.move? .refused
      | .never => none
    else none
  | .closing _ => if w.device.closing = .never then none else w.move? .closed
  | _ => w.move? (if w.device.refusesLines ∧ ¬w.device.stream then .handFailed else .handed)

/-- The next thing that is ready. -/
def step? (w : World) : Option World :=
  match w.read? with
  | some w => some w
  | none => match w.move? .act with
    | some w => some w
    | none => w.respond?

/-- All that is ready, at most `fuel` things. -/
def settleWithin : Nat → World → World
  | 0, w => w
  | fuel + 1, w => match w.step? with
    | some w => settleWithin fuel w
    | none => w

/-- The things that may happen at one time. -/
def settleLimit : Nat := 100000

def settle (w : World) : World := settleWithin settleLimit w

/-- The next time at which something is ready. -/
def timer? (w : World) : Option Nat :=
  match w.session.phase, w.attempt with
  | .opening, some a => if a.answer = .never then none else some a.ready
  | _, _ => w.session.timer?

def elapseTo (w : World) (time : Nat) : World := (w.move? (.elapse (time - w.now))).getD w

/-- Passes from timer to timer up to a time; each step takes a millisecond at least. -/
def passWithin (time : Nat) : Nat → World → World
  | 0, w => w
  | fuel + 1, w =>
    match w.timer? with
    | some t =>
      if w.now < t ∧ t ≤ time then passWithin time fuel (w.elapseTo t).settle
      else w.elapseTo time |>.settle
    | none => w.elapseTo time |>.settle

/-- Waits until a time. -/
def passTo (w : World) (time : Nat) : World :=
  passWithin time (time - w.now + 1) w.settle

/-- The steps of one call and the waits between them. -/
def awaitLimit : Nat := 10000

/-- Resumes a call until it returns; while it waits, all else goes on. -/
def await (id : Nat) : Nat → World → World
  | 0, w => w
  | fuel + 1, w =>
    if (w.session.calls.lookup id).isNone then w
    else match w.move? (.resume id) with
      | some w => await id fuel w
      | none =>
        let settled := w.settle
        if settled.session.history.length ≠ w.session.history.length then await id fuel settled
        else match settled.timer? with
          | some t => if w.now < t then await id fuel (settled.elapseTo t).settle else settled
          | none => settled

/-- A call from its first step to its answer. -/
def call (w : World) (r : Request) : World × Option Reply :=
  let id := w.session.callCount
  let w := await id awaitLimit ((w.move? (.call r)).getD w)
  (w, replyOf id w.session.history)

/-- Changes what the device has sent, if a connection is there. -/
def onLink (w : World) (f : Device.Link → Device.Link) : World := { w with link := w.link.map f }

end World
end AlarmKeypad.Scenario
