import AlarmKeypad.Text.Numeral
import AlarmKeypad.Url.Fault
/-!
What goes wrong between two ends of a connection. Every such fault is mended by connecting again.
-/

namespace AlarmKeypad

inductive IoFault.Kind where
  | notFound
  | timedOut
  | invalidData
  | connectionReset
  | other
deriving DecidableEq

def IoFault.Kind.message : IoFault.Kind → String
  | notFound => "entity not found"
  | timedOut => "timed out"
  | invalidData => "invalid data"
  | connectionReset => "connection reset"
  | other => "other error"

/-- A fault of a stream or a file. -/
structure IoFault where
  kind : IoFault.Kind
  /-- A text that says more than the kind. -/
  reason : Option String
deriving DecidableEq

def IoFault.message (f : IoFault) : String := f.reason.getD f.kind.message

inductive TransportFault where
  /-- The transport did not open. -/
  | connect (endpoint reason : String)
  | io (fault : IoFault)
  | lineTooLong (max : Nat)
  | invalidUrl (fault : Url.Fault)
  | webSocket (reason : String)
  /-- This end has been dropped. -/
  | closed
deriving DecidableEq

namespace TransportFault

def message : TransportFault → String
  | connect endpoint reason => "Connection to " ++ endpoint ++ " failed: " ++ reason
  | io fault => "I/O error: " ++ fault.message
  | lineTooLong max => "Line exceeds " ++ Text.decimalString max ++ " bytes"
  | invalidUrl fault => "Invalid URL: " ++ fault.message
  | webSocket reason => "WebSocket error: " ++ reason
  | closed => "Transport closed"

/-- Whether it came before the transport was open. -/
def isConnect : TransportFault → Bool
  | connect .. | invalidUrl _ => true
  | io _ | lineTooLong _ | webSocket _ | closed => false

end TransportFault
end AlarmKeypad
