import AlarmKeypad.Fault.Transport
/-!
What goes wrong between a configuration file and the settings of a keypad.
-/

namespace AlarmKeypad

inductive ConfigFault where
  | validation (field reason : String)
  | unknownProfile (name : String)
  /-- A configuration that has no text. -/
  | serialization
  /-- A file or variables that are no configuration. -/
  | load
  | io (fault : IoFault)
deriving DecidableEq

namespace ConfigFault

def message : ConfigFault → String
  | validation field reason => "invalid " ++ field ++ ": " ++ reason
  | unknownProfile name => "no profile named '" ++ name ++ "'"
  | serialization => "failed to serialize config: out-of-range value"
  | load => "config loading failed: not a configuration"
  | io fault => "IO error: " ++ fault.message

end ConfigFault
end AlarmKeypad
