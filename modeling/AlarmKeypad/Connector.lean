import AlarmKeypad.Endpoint
import AlarmKeypad.Fault.Keypad
import AlarmKeypad.Url
/-!
The addresses that connections are opened to.
-/

namespace AlarmKeypad

/-- The URL of a keypad on a device's web server. -/
def webSocketUrl (host : String) (port : Option UInt16) : Except Url.Fault Url :=
  Url.parse ("ws://" ++ Endpoint.authority host port ++ webSocketPath).toList

namespace Endpoint

/-- The address of a raw stream, which has a port. -/
def streamAddress (host : String) (port : UInt16) : String := "tcp://" ++ authority host (some port)

/-- Where a connection to the endpoint goes, in words. -/
def address (e : Endpoint) : Except KeypadFault String :=
  match e.transport with
  | .webSocket =>
    match webSocketUrl e.host e.port with
    | .ok u => .ok u.text
    | .error f => .error (.ofTransport (.invalidUrl f))
  | .tcp => .ok e.text

end Endpoint
end AlarmKeypad
