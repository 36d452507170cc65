import AlarmKeypad.Control
/-!
How a keypad talks to its device. Times are in milliseconds.
-/

namespace AlarmKeypad

structure KeypadSettings where
  partition : UInt32
  code : UInt32
  /-- The mask of every heartbeat. -/
  pingMask : String
  /-- The time between heartbeats. -/
  heartbeat : Nat
  /-- The time before every attempt after the first. -/
  reconnectDelay : Nat
deriving DecidableEq

namespace KeypadSettings

def default : KeypadSettings := ⟨0, 0, AlarmKeypad.pingMask, 15000, 1000⟩

/-- The first line of every connection. -/
def syncLine (c : KeypadSettings) : String := (ControlLine.sync c.partition c.code).render

def pingLine (c : KeypadSettings) : String := (ControlLine.ping c.pingMask).render

/-- Whether a heartbeat can be set at a time: it is not zero, and its seconds fit in 63 bits. -/
def HasHeartbeat (c : KeypadSettings) (now : Nat) : Prop :=
  c.heartbeat ≠ 0 ∧ (now + c.heartbeat) / 1000 < UInt64.size / 2

instance (c : KeypadSettings) (now : Nat) : Decidable (c.HasHeartbeat now) :=
  inferInstanceAs (Decidable (_ ∧ _))

end KeypadSettings
end AlarmKeypad
