import AlarmKeypad.Url.Ipv6
/-!
Addresses of listeners: an IP address and a port.
-/

namespace AlarmKeypad

inductive IpAddress where
  | v4 (address : UInt32)
  /-- Eight pieces, and the scope that they are meant in. -/
  | v6 (pieces : List Nat) (scope : Nat)
deriving DecidableEq

namespace IpAddress

open Url

/-- An address without a scope. -/
def parse? (cs : List Char) : Option IpAddress :=
  match Ipv4.strict? cs with
  | some a => some (v4 a)
  | none => (Ipv6.parse? cs).map fun ps => v6 ps 0

/-- The pieces in hexadecimal, the last two in decimal bytes if all before them say so. -/
def piecesText (ps : List Nat) : List Char :=
  match ps with
  | [0, 0, 0, 0, 0, 0xFFFF, hi, lo] =>
    [':', ':', 'f', 'f', 'f', 'f', ':'] ++ Ipv4.text (hi * 65536 + lo).toUInt32
  | _ => Ipv6.text ps

end IpAddress

structure SocketAddress where
  ip : IpAddress
  port : UInt16
deriving DecidableEq

namespace SocketAddress

open Url

def port? (cs : List Char) : Option UInt16 :=
  ((Text.natural? cs).filter (· < UInt16.size)).map Nat.toUInt16

/-- The pieces of an address in brackets, and its scope behind a percent sign. -/
def scoped? (cs : List Char) : Option IpAddress :=
  match Text.splitOnce '%' cs with
  | none => (Ipv6.parse? cs).map fun ps => .v6 ps 0
  | some (a, s) => do
    let scope ← (Text.natural? s).filter (· < UInt32.size)
    return .v6 (← Ipv6.parse? a) scope

def parse? (cs : List Char) : Option SocketAddress :=
  match cs with
  | '[' :: r => do
    let (a, rest) ← Text.splitOnce ']' r
    match rest with
    | ':' :: p => return ⟨← scoped? a, ← port? p⟩
    | _ => none
  | _ => do
    let (a, p) ← Text.splitOnce ':' cs
    return ⟨.v4 (← Ipv4.strict? a), ← port? p⟩

def text (s : SocketAddress) : String :=
  let port := ':' :: Text.decimal s.port.toNat
  String.ofList <| match s.ip with
    | .v4 a => Ipv4.text a ++ port
    | .v6 ps scope =>
      '[' :: IpAddress.piecesText ps ++ (if scope = 0 then [] else '%' :: Text.decimal scope) ++
        ']' :: port

end SocketAddress
end AlarmKeypad
