import AlarmKeypad.Fault.Transport
/-!
What keeps a log from being replayed.
-/

namespace AlarmKeypad

inductive ReplayFault where
  | logUnreadable (path : String)
  | emptyLog (path : String)
  /-- No listener on the address. -/
  | bind (address : String)
  | io (fault : IoFault)
deriving DecidableEq

namespace ReplayFault

def message : ReplayFault → String
  | logUnreadable path => "cannot read replay log `" ++ path ++ "`"
  | emptyLog path => "replay log `" ++ path ++ "` has no lines to send"
  | bind address => "cannot listen on " ++ address
  | io fault => fault.message

def code : ReplayFault → String
  | logUnreadable _ => "ad2kp_sim::log_unreadable"
  | emptyLog _ => "ad2kp_sim::empty_log"
  | bind _ => "ad2kp_sim::bind"
  | io _ => "ad2kp_sim::io"

def help? : ReplayFault → Option String
  | logUnreadable _ => some "Pass a text file with one protocol line per row."
  | bind _ => some "Is another simulator already running? Try --port."
  | emptyLog _ | io _ => none

end ReplayFault
end AlarmKeypad
