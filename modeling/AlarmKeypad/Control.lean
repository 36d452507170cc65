import AlarmKeypad.Text.Blank
import AlarmKeypad.Text.Numeral
/-!
Control lines: an exclamation mark, a verb, a colon and a payload.

| Direction | Line | Meaning |
|---|---|---|
| to the device | `!SYNC:<partition>,<code>` | subscribe to a partition |
| to the device | `!PING:<mask>` | heartbeat probe |
| to the device | `!SEND:<command>` | a keypad command |
| from the device | `!PONG:<mask>` | heartbeat reply |
-/

namespace AlarmKeypad

inductive ControlVerb where
  | sync
  | ping
  | pong
  | send
  /-- A verb that asks for nothing. -/
  | other (name : String)
deriving DecidableEq

namespace ControlVerb

def name : ControlVerb → String
  | sync => "SYNC"
  | ping => "PING"
  | pong => "PONG"
  | send => "SEND"
  | other n => n

def ofName (n : String) : ControlVerb :=
  if n = "SYNC" then sync
  else if n = "PING" then ping
  else if n = "PONG" then pong
  else if n = "SEND" then send
  else other n

theorem name_ofName (n : String) : (ofName n).name = n := by
  unfold ofName
  split
  · simp_all [name]
  · split
    · simp_all [name]
    · split
      · simp_all [name]
      · split <;> simp_all [name]

end ControlVerb

structure ControlLine where
  verb : ControlVerb
  payload : String
deriving DecidableEq

namespace ControlLine

/-- Asks for a partition with a code slot. -/
def sync (partition code : UInt32) : ControlLine :=
  ⟨.sync, Text.decimalString partition.toNat ++ "," ++ Text.decimalString code.toNat⟩

def ping (mask : String) : ControlLine := ⟨.ping, mask⟩

def pong (mask : String) : ControlLine := ⟨.pong, mask⟩

/-- Forwards a command token, whatever it is. -/
def send (command : String) : ControlLine := ⟨.send, command⟩

def render (c : ControlLine) : String := "!" ++ c.verb.name ++ ":" ++ c.payload

/-- The line whose text after the exclamation mark is `body`; without a colon the payload is
empty. -/
def ofBody (body : List Char) : ControlLine :=
  let (name, payload) := (Text.splitOnce ':' body).getD (body, [])
  ⟨.ofName (String.ofList name), String.ofList payload⟩

/-- A numeral of 32 bits with blanks around it. -/
def number? (cs : List Char) : Option UInt32 :=
  (Text.bounded? (UInt32.size - 1) (Text.trim cs)).map Nat.toUInt32

/-- The partition and the code slot of a SYNC line. -/
def syncTarget? (c : ControlLine) : Option (UInt32 × UInt32) :=
  if c.verb = .sync then do
    let (partition, code) ← Text.splitOnce ',' c.payload.toList
    return (← number? partition, ← number? code)
  else none

end ControlLine

/-- The mask of heartbeats, and of the answers to them. -/
def pingMask : String := "00000000"

end AlarmKeypad
