import AlarmKeypad.Fault.Config
import AlarmKeypad.Fault.Keypad
/-!
What a command reports to its user: a text, a code, a help and an exit code.
-/

namespace AlarmKeypad

inductive CliFault where
  | connectionFailed (endpoint reason : String)
  | timeout (seconds : Nat) (what endpoint : String)
  | invalidCommand (input reason : String)
  | validation (field reason : String)
  | profileNotFound (name available : String)
  /-- Neither a profile nor a host; the path of the configuration file. -/
  | noEndpoint (path : String)
  | config (fault : ConfigFault)
  | io (fault : IoFault)
  | json
deriving DecidableEq

namespace CliFault

def message : CliFault → String
  | connectionFailed endpoint _ => "Could not connect to " ++ endpoint
  | timeout seconds what _ =>
    "Timed out after " ++ Text.decimalString seconds ++ "s waiting for " ++ what
  | invalidCommand input reason => "Invalid keypad command '" ++ input ++ "': " ++ reason
  | validation field reason => "Invalid value for " ++ field ++ ": " ++ reason
  | profileNotFound name _ => "Profile '" ++ name ++ "' not found in configuration"
  | noEndpoint _ => "No keypad endpoint configured"
  | config fault => fault.message
  | io fault => fault.message
  | json => "Failed to encode JSON output"

def code? : CliFault → Option String
  | connectionFailed .. => some "ad2kp::connection_failed"
  | timeout .. => some "ad2kp::timeout"
  | invalidCommand .. => some "ad2kp::invalid_command"
  | validation .. => some "ad2kp::validation"
  | profileNotFound .. => some "ad2kp::profile_not_found"
  | noEndpoint _ => some "ad2kp::no_config"
  | config _ => some "ad2kp::config"
  | io _ => none
  | json => some "ad2kp::json"

def help? : CliFault → Option String
  | connectionFailed _ reason =>
    some ("Check that the device is powered and reachable.\nReason: " ++ reason)
  | timeout _ _ endpoint =>
    some ("Increase the wait with --timeout or check the device at " ++ endpoint ++ ".")
  | invalidCommand .. =>
    some ("Known commands: disarm, stay, away, exit, chime, bypass:<zone>,\n" ++
      "panic, fire, aux. Use --raw to forward any string verbatim.")
  | profileNotFound _ available => some ("Available profiles: " ++ available)
  | noEndpoint path =>
    some ("Pass --host (and --transport tcp --port N for raw TCP),\nor add a profile to: " ++ path)
  | validation .. | config _ | io _ | json => none

def exitCode : CliFault → Nat
  | connectionFailed .. => 7
  | timeout .. => 8
  | invalidCommand .. | validation .. | profileNotFound .. | noEndpoint _ => 2
  | config _ | io _ | json => 1

def ofConfig : ConfigFault → CliFault
  | .validation field reason => validation field reason
  | .unknownProfile name => profileNotFound name ""
  | fault => config fault

def ofKeypad : KeypadFault → CliFault
  | .connectionFailed endpoint reason => connectionFailed endpoint reason
  | .transport reason => connectionFailed "the keypad" reason
  | .invalidCommand input reason => invalidCommand input reason
  | .config message => validation "endpoint" message
  | fault => connectionFailed "(disconnected)" fault.message

end CliFault
end AlarmKeypad
