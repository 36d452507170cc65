import AlarmKeypad.Keyboard
/-!
The operator of a replay server, who pauses it and ends it from the keyboard.

Without a terminal there are no keys, and only an interrupt ends it.
-/

namespace AlarmKeypad.Replay

inductive OperatorAction where
  | togglePause
  | quit
deriving DecidableEq

def OperatorAction.ofKey? (k : Key) : Option OperatorAction :=
  if k.isInterrupt then some .quit
  else match k.code with
    | .char 'q' | .escape => some .quit
    | .char ' ' => some .togglePause
    | _ => none

/-- What reaches the server from outside. -/
inductive OperatorInput where
  | keyboard (i : KeyInput)
  | interrupt
deriving DecidableEq

structure Operator where
  terminal : Bool
  paused : Bool
  /-- How it ended, if it did. -/
  ending : Option (Except IoFault Unit)
  /-- What the operator was told, the last in front. -/
  told : List String

namespace Operator

def tell (o : Operator) (s : String) : Operator := { o with told := s :: o.told }

def new (terminal : Bool) : Operator :=
  let o : Operator := ⟨terminal, false, none, []⟩
  if terminal then
    o.tell "Press q, Esc or Ctrl-C to exit. Press space to pause and resume the stream."
  else o

def isOver (o : Operator) : Bool := o.ending.isSome

def finish (o : Operator) (r : Except IoFault Unit) : Operator := { o with ending := some r }

def act (o : Operator) : OperatorAction → Operator
  | .quit => (o.tell "Exit key pressed. Done.").finish (.ok ())
  | .togglePause =>
    { o with paused := !o.paused }.tell (if o.paused then "Resumed.." else "Paused..")

def step (o : Operator) (i : OperatorInput) : Operator :=
  if o.isOver then o
  else match o.terminal, i with
    | false, .interrupt => o.finish (.ok ())
    | true, .keyboard (.pressed k) =>
      match OperatorAction.ofKey? k with
      | some a => o.act a
      | none => o
    | true, .keyboard (.failed f) => o.finish (.error f)
    | true, .keyboard .ended => o.finish (.ok ())
    | true, .keyboard .other | true, .interrupt | false, .keyboard _ => o

/-- Everything that was told, in lines that end as a raw terminal needs it. -/
def text (o : Operator) : String := String.join (o.told.reverse.map (· ++ "\r\n"))

/-- The pause switch after every input that does not end it. -/
def pauses (o : Operator) : List OperatorInput → List Bool × Operator
  | [] => ([], o)
  | i :: r =>
    let next := o.step i
    if next.isOver then ([], next)
    else
      let (ps, last) := next.pauses r
      (next.paused :: ps, last)

end Operator
end AlarmKeypad.Replay
