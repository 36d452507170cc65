import AlarmKeypad.Url.Domain
import AlarmKeypad.Url.Ipv6
import AlarmKeypad.Url.Percent
/-!
Hosts of URLs.
-/

namespace AlarmKeypad.Url

inductive Host where
  | domain (name : List Char)
  | ipv4 (address : UInt32)
  | ipv6 (pieces : List Nat)
deriving DecidableEq

namespace Host

def text : Host → List Char
  | domain name => name
  | ipv4 a => Ipv4.text a
  | ipv6 ps => '[' :: Ipv6.text ps ++ [']']

/-- A host in square brackets, after the opening one. -/
def bracketed (cs : List Char) : Except Fault Host :=
  if cs.getLast? = some ']' then
    match Ipv6.parse? cs.dropLast with
    | some ps => .ok (ipv6 ps)
    | none => .error .ipv6
  else .error .ipv6

/-- The host of a URL whose scheme knows hosts: an address, or a domain in ASCII. -/
def parse (cs : List Char) : Except Fault Host :=
  match cs with
  | '[' :: r => bracketed r
  | _ =>
    match Domain.toAscii? (Text.Utf8.decodeLossy (Percent.decode cs)) with
    | none => .error .domain
    | some name =>
      if name = [] then .error .emptyHost
      else if Ipv4.endsInNumber name then (Ipv4.parse name).map ipv4
      else .ok (domain name)

/-- The characters that no host of another scheme holds. -/
def isForbidden (c : Char) : Bool :=
  c ∈ ['\x00', '\t', '\n', '\r', ' ', '#', '/', ':', '<', '>', '?', '@', '[', '\\', ']', '^', '|']

/-- The host of a URL with another scheme, taken as it stands. -/
def parseOpaque (cs : List Char) : Except Fault Host :=
  match cs with
  | '[' :: r => bracketed r
  | _ =>
    if cs.any isForbidden then .error .domainCharacter
    else .ok (domain (Percent.encode Percent.controls cs))

end Host
end AlarmKeypad.Url
