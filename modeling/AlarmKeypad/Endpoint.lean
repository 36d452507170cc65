import AlarmKeypad.Text.Numeral
/-!
Where a device is reached.
-/

namespace AlarmKeypad

inductive TransportKind where
  /-- The socket of the device's web server. -/
  | webSocket
  /-- Lines over a raw stream. -/
  | tcp
deriving DecidableEq

namespace TransportKind

def name : TransportKind → String
  | webSocket => "websocket"
  | tcp => "tcp"

def ofName? (n : String) : Option TransportKind :=
  if n = "websocket" then some webSocket else if n = "tcp" then some tcp else none

/-- A name in letters of either case. -/
def read? (n : String) : Option TransportKind :=
  ofName? (String.ofList (n.toList.map Char.toLower))

end TransportKind

/-- The path of the keypad on the device's web server. -/
def webSocketPath : String := "/ad2ws"

structure Endpoint where
  transport : TransportKind
  host : String
  port : Option UInt16
deriving DecidableEq

namespace Endpoint

/-- A host with its port behind a colon. -/
def authority (host : String) : Option UInt16 → String
  | none => host
  | some port => host ++ ":" ++ Text.decimalString port.toNat

def text (e : Endpoint) : String :=
  match e.transport with
  | .webSocket => "ws://" ++ authority e.host e.port ++ webSocketPath
  | .tcp => "tcp://" ++ authority e.host e.port

end Endpoint
end AlarmKeypad
