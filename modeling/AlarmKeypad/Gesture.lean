import AlarmKeypad.Command
/-!
Three taps within a rolling window confirm an alarm; silence cancels the taps.

Each action has a counter of its own. Time is in milliseconds.
-/

namespace AlarmKeypad

def tapsToConfirm : Nat := 3

inductive Confirmation where
  /-- Taps so far. -/
  | pending (count : Nat)
  | confirmed
  | cancelled
deriving DecidableEq

structure TapCounter where
  count : Nat
  /-- When silence cancels the taps. -/
  deadline : Option Nat
deriving DecidableEq

namespace TapCounter

def zero : TapCounter := ⟨0, none⟩

/-- A counter whose deadline has come counts from the start again. -/
def expire (c : TapCounter) (now : Nat) : TapCounter :=
  match c.deadline with
  | some d => if d ≤ now then zero else c
  | none => c

def tap (c : TapCounter) (now window : Nat) : Confirmation × TapCounter :=
  let n := (c.expire now).count + 1
  if tapsToConfirm ≤ n then (.confirmed, zero) else (.pending n, ⟨n, some (now + window)⟩)

end TapCounter

/-- A wait for a cancellation, which its owner looks at again and again, and may give up. -/
inductive Wait where
  /-- Nobody has looked at it. -/
  | fresh
  /-- There was nothing to cancel at the first look; it never ends. -/
  | idle
  | pending (deadline : Nat) (action : AlarmAction)
  | finished
deriving DecidableEq

structure GestureConfirmer where
  /-- The silence after the last tap that cancels. -/
  window : Nat
  panic : TapCounter
  fire : TapCounter
  aux : TapCounter
deriving DecidableEq

namespace GestureConfirmer

def defaultWindow : Nat := 3000

def new (window : Nat) : GestureConfirmer := ⟨window, .zero, .zero, .zero⟩

def counter (g : GestureConfirmer) : AlarmAction → TapCounter
  | .panic => g.panic
  | .fire => g.fire
  | .aux => g.aux

def setCounter (g : GestureConfirmer) (a : AlarmAction) (c : TapCounter) : GestureConfirmer :=
  match a with
  | .panic => { g with panic := c }
  | .fire => { g with fire := c }
  | .aux => { g with aux := c }

@[simp]
theorem counter_setCounter (g : GestureConfirmer) (a b : AlarmAction) (c : TapCounter) :
    (g.setCounter a c).counter b = if a = b then c else g.counter b := by
  cases a <;> cases b <;> rfl

@[simp]
theorem window_setCounter (g : GestureConfirmer) (a : AlarmAction) (c : TapCounter) :
    (g.setCounter a c).window = g.window := by
  cases a <;> rfl

def count (g : GestureConfirmer) (a : AlarmAction) : Nat := (g.counter a).count

/-- Counts one tap and restarts the window of its action. -/
def tap (g : GestureConfirmer) (a : AlarmAction) (now : Nat) : Confirmation × GestureConfirmer :=
  let (r, c) := (g.counter a).tap now g.window
  (r, g.setCounter a c)

/-- The earlier of two deadlines; the first of two at one time. -/
def earlier (x y : Option (Nat × AlarmAction)) : Option (Nat × AlarmAction) :=
  match x, y with
  | none, y => y
  | x, none => x
  | some (d, a), some (e, b) => if e < d then some (e, b) else some (d, a)

def deadlineOf (g : GestureConfirmer) (a : AlarmAction) : Option (Nat × AlarmAction) :=
  (g.counter a).deadline.map fun d => (d, a)

/-- The earliest deadline and its action; of deadlines at one time panic comes first, then fire. -/
def nextDeadline (g : GestureConfirmer) : Option (Nat × AlarmAction) :=
  earlier (earlier (g.deadlineOf .panic) (g.deadlineOf .fire)) (g.deadlineOf .aux)

/-- Forgets the taps on an action. -/
def cancel (g : GestureConfirmer) (a : AlarmAction) : GestureConfirmer := g.setCounter a .zero

/-- A look at a timer, which fires at its deadline or later, but never before. -/
def pollTimer (g : GestureConfirmer) (now : Nat) (fires : Bool) (deadline : Nat)
    (a : AlarmAction) : Option AlarmAction × Wait × GestureConfirmer :=
  if fires ∧ deadline ≤ now then (some a, .finished, g.cancel a) else (none, .pending deadline a, g)

/-- A look at a wait. The first one settles what it waits for: the earliest deadline. -/
def poll (g : GestureConfirmer) (now : Nat) (fires : Bool) :
    Wait → Option AlarmAction × Wait × GestureConfirmer
  | .fresh =>
    match g.nextDeadline with
    | some (d, a) => g.pollTimer now fires d a
    | none => (none, .idle, g)
  | .idle => (none, .idle, g)
  | .pending d a => g.pollTimer now fires d a
  | .finished => (none, .finished, g)

/-- Waits for a cancellation until `limit`, which one due exactly then still meets: the action and
the time of the answer. -/
def awaitCancellation (g : GestureConfirmer) (now limit : Nat) :
    Option AlarmAction × Nat × GestureConfirmer :=
  match g.nextDeadline with
  | some (d, a) => if d ≤ limit then (some a, max now d, g.cancel a) else (none, limit, g)
  | none => (none, limit, g)

end GestureConfirmer
end AlarmKeypad
