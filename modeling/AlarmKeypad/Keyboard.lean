import AlarmKeypad.Fault.Transport
/-!
Keys of a terminal.
-/

namespace AlarmKeypad

inductive KeyCode where
  | char (c : Char)
  | escape
  | other
deriving DecidableEq

/-- A key that was pressed. -/
structure Key where
  code : KeyCode
  /-- Whether the control key was held down. -/
  control : Bool
deriving DecidableEq

/-- What comes from a keyboard. -/
inductive KeyInput where
  | pressed (k : Key)
  /-- A key let go or held down, or a new size of the terminal. -/
  | other
  | failed (f : IoFault)
  | ended
deriving DecidableEq

/-- Whether the key interrupts a program. -/
def Key.isInterrupt (k : Key) : Bool := k.code == .char 'c' && k.control

end AlarmKeypad
