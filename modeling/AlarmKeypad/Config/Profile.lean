import AlarmKeypad.Endpoint
import AlarmKeypad.Fault.Config
import AlarmKeypad.Settings
import AlarmKeypad.Toml.Statement
/-!
Profiles: named keypads as a configuration describes them.
-/

namespace AlarmKeypad

structure Profile where
  host : String
  transport : TransportKind
  port : Option UInt16
  partition : UInt32
  code : UInt32
  heartbeatSeconds : Option UInt64
  reconnectMillis : Option UInt64
deriving DecidableEq

/-- An endpoint and how to talk to it. -/
structure Connection where
  endpoint : Endpoint
  settings : KeypadSettings
deriving DecidableEq

namespace Profile

open Toml (Value)

/-- The profile of a host of which nothing else is known. -/
def ofHost (host : String) : Profile := ⟨host, .webSocket, none, 0, 0, none, none⟩

/-! ### Reading -/

/-- A number that may be absent. -/
def optional? {α : Type} (max : Nat) (f : Nat → α) : Option Value → Option (Option α)
  | none => some none
  | some v => (v.natural? max).map fun n => some (f n)

/-- A number that is zero where it is absent. -/
def counter? (v : Option Value) : Option UInt32 :=
  (optional? (UInt32.size - 1) Nat.toUInt32 v).map (·.getD 0)

def transport? : Option Value → Option TransportKind
  | none => some .webSocket
  | some v => v.string?.bind TransportKind.ofName?

def ofFields? (host transport port partition code heartbeat reconnect : Option Value) :
    Option Profile := do
  return ⟨← (← host).string?, ← transport? transport,
    ← optional? (UInt16.size - 1) Nat.toUInt16 port, ← counter? partition, ← counter? code,
    ← optional? (UInt64.size - 1) Nat.toUInt64 heartbeat,
    ← optional? (UInt64.size - 1) Nat.toUInt64 reconnect⟩

/-- A profile is a table of its fields, or an array of all of them in their order. -/
def ofValue? : Value → Option Profile
  | .table ms =>
    ofFields? (ms.lookup "host") (ms.lookup "transport") (ms.lookup "port") (ms.lookup "partition")
      (ms.lookup "code") (ms.lookup "heartbeat_secs") (ms.lookup "reconnect_ms")
  | .array (host :: transport :: port :: partition :: code :: heartbeat :: reconnect :: _) =>
    ofFields? host transport port partition code heartbeat reconnect
  | _ => none

/-! ### Writing -/

/-- The greatest number that a text can hold. -/
def maxWritten : Nat := UInt64.size / 2 - 1

def writeOptional (k : String) (v : Option Nat) : Except ConfigFault (List Char) :=
  match v with
  | none => .ok []
  | some n =>
    if n ≤ maxWritten then .ok (Toml.Statement.writeNatural k n) else .error .serialization

/-- The lines of a profile under its header. -/
def write (name : String) (p : Profile) : Except ConfigFault (List Char) := do
  let heartbeat ← writeOptional "heartbeat_secs" (p.heartbeatSeconds.map UInt64.toNat)
  let reconnect ← writeOptional "reconnect_ms" (p.reconnectMillis.map UInt64.toNat)
  let port ← writeOptional "port" (p.port.map UInt16.toNat)
  return Toml.Statement.writeHeader ["profiles", name] ++
    Toml.Statement.writeString "host" p.host ++
    Toml.Statement.writeString "transport" p.transport.name ++ port ++
    Toml.Statement.writeNatural "partition" p.partition.toNat ++
    Toml.Statement.writeNatural "code" p.code.toNat ++ heartbeat ++ reconnect

/-! ### Use -/

/-- The connection that a profile describes, with the defaults for what it leaves open. -/
def resolve (p : Profile) : Except ConfigFault Connection :=
  let host := Text.trimString p.host
  if host.isEmpty then .error (.validation "host" "must not be empty")
  else if p.transport = .tcp ∧ p.port.isNone then
    .error (.validation "port" "required for the tcp transport")
  else if p.heartbeatSeconds = some 0 then
    .error (.validation "heartbeat_secs" "must be greater than zero")
  else
    let d := KeypadSettings.default
    .ok
      { endpoint := ⟨p.transport, host, p.port⟩
        settings :=
          { d with
            partition := p.partition
            code := p.code
            heartbeat := (p.heartbeatSeconds.map fun s => s.toNat * 1000).getD d.heartbeat
            reconnectDelay := (p.reconnectMillis.map UInt64.toNat).getD d.reconnectDelay } }

end Profile
end AlarmKeypad
