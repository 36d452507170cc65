import AlarmKeypad.Command
import AlarmKeypad.Fault.Transport
/-!
What a call on a keypad answers when it does not do its work.
-/

namespace AlarmKeypad

inductive KeypadFault where
  | notConnected
  | shutDown
  | connectionFailed (endpoint reason : String)
  /-- A fault of a transport that was open. -/
  | transport (reason : String)
  | invalidCommand (input reason : String)
  | config (message : String)
deriving DecidableEq

namespace KeypadFault

def message : KeypadFault → String
  | notConnected => "Not connected to the keypad endpoint"
  | shutDown => "Keypad has been shut down"
  | connectionFailed endpoint reason => "Cannot connect to " ++ endpoint ++ ": " ++ reason
  | transport reason => "Transport error: " ++ reason
  | invalidCommand input reason => "Invalid keypad command '" ++ input ++ "': " ++ reason
  | config message => "Configuration error: " ++ message

def ofTransport : TransportFault → KeypadFault
  | .connect endpoint reason => connectionFailed endpoint reason
  | .invalidUrl fault => config ("Invalid endpoint URL: " ++ fault.message)
  | .closed => notConnected
  | fault => transport fault.message

end KeypadFault

/-- The command that a text names; a fault repeats the text. -/
def Command.read (text : String) : Except KeypadFault Command :=
  match Command.parse text with
  | .ok c => .ok c
  | .error f => .error (.invalidCommand text f.message)

end AlarmKeypad
