import AlarmKeypad.Session.State
/-!
What subscribers of a keypad hear of.
-/

namespace AlarmKeypad.Session

inductive Notice where
  | connection (s : ConnectionState)
  | mode (c : ModeChange)
deriving DecidableEq

def Notice.ofEvent? : Event → Option Notice
  | .published s => some (.connection s)
  | .modeChanged c => some (.mode c)
  | _ => none

/-- The notices of a history and their times, the last in front. -/
def notices (h : List Stamped) : List (Nat × Notice) :=
  h.filterMap fun e => (Notice.ofEvent? e.event).map fun n => (e.time, n)

/-- The notices that a subscriber keeps. -/
def noticeCapacity : Nat := 256

/-- The answer to a call. -/
def replyOf (id : Nat) (h : List Stamped) : Option Reply :=
  h.findSome? fun e => match e.event with
    | .returned i r => if i = id then some r else none
    | _ => none

end AlarmKeypad.Session
