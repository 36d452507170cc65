/-!
Why a text is no URL.
-/

namespace AlarmKeypad.Url

inductive Fault where
  | emptyHost
  /-- A host that is no domain name. -/
  | domain
  | port
  | ipv4
  | ipv6
  | domainCharacter
  /-- No scheme in front. -/
  | relative
deriving DecidableEq

def Fault.message : Fault → String
  | emptyHost => "empty host"
  | domain => "invalid international domain name"
  | port => "invalid port number"
  | ipv4 => "invalid IPv4 address"
  | ipv6 => "invalid IPv6 address"
  | domainCharacter => "invalid domain character"
  | relative => "relative URL without a base"

end AlarmKeypad.Url
