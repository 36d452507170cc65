import AlarmKeypad.Endpoint
import AlarmKeypad.SocketAddress
import Std.Async.DNS
import Std.Async.TCP
/-!
The other end of a connection over the network.
-/

namespace AlarmKeypad.Network

open Std.Async

abbrev Socket := TCP.Socket.Client

/-- A socket that is being read. -/
structure Peer where
  socket : Socket
  receipt : AsyncTask (Option ByteArray)

/-- What came of something that was begun. -/
inductive Progress (α : Type) where
  | waiting
  | done (a : α)
  | failed

def progress {α : Type} (t : AsyncTask α) : IO (Progress α) := do
  if ← IO.hasFinished t then
    match t.get with
    | .ok a => return .done a
    | .error _ => return .failed
  else return .waiting

/-- The bytes that are read at once, at most. -/
def chunkSize : UInt64 := 65536

namespace Peer

def ofSocket (s : Socket) : IO Peer := do
  return ⟨s, ← Async.toIO (s.recv? chunkSize)⟩

/-- Reads on. -/
def again (p : Peer) : IO Peer := ofSocket p.socket

/-- Does something on the network; a fault shows when the peer is read. -/
def attempt (a : Async Unit) : Async Unit := do
  try a
  catch _ => return ()

/-- Begins to send bytes, which go after all that have been sent before. -/
def beginSend (p : Peer) (bytes : List UInt8) : IO Unit := do
  discard <| Async.toIO (attempt (p.socket.send ⟨bytes.toArray⟩))

/-- Sends bytes and waits until they have gone. -/
def send (p : Peer) (bytes : List UInt8) : IO Unit :=
  (attempt (p.socket.send ⟨bytes.toArray⟩)).block

def beginClose (p : Peer) : IO Unit := do
  discard <| Async.toIO (attempt p.socket.shutdown)

def close (p : Peer) : IO Unit := (attempt p.socket.shutdown).block

end Peer

/-! ### Addresses -/

def ipv4 (a : UInt32) : Std.Net.IPv4Addr :=
  ⟨Vector.ofFn fun i => (a >>> (8 * (3 - i.val)).toUInt32).toUInt8⟩

def ipv6 (pieces : List Nat) : Std.Net.IPv6Addr :=
  ⟨Vector.ofFn fun i => (pieces.getD i.val 0).toUInt16⟩

def withPort (port : UInt16) : Std.Net.IPAddr → Std.Net.SocketAddress
  | .v4 a => .v4 ⟨a, port⟩
  | .v6 a => .v6 ⟨a, port⟩

def ofIp : IpAddress → Std.Net.IPAddr
  | .v4 a => .v4 (ipv4 a)
  | .v6 ps _ => .v6 (ipv6 ps)

/-- The addresses of a host: the one that it is written as, or those of its name. -/
def addresses (host : String) (port : UInt16) : Async (List Std.Net.SocketAddress) := do
  let bare := String.ofList (host.toList.filter fun c => c != '[' && c != ']')
  match IpAddress.parse? bare.toList with
  | some ip => return [withPort port (ofIp ip)]
  | none => return (← DNS.getAddrInfo host "").toList.map (withPort port)

/-- A socket connected to the first address that answers. -/
def connectFirst : List Std.Net.SocketAddress → Async Socket
  | [] => throw (IO.userError "no address answers")
  | a :: rest => do
    try
      let s ← TCP.Socket.Client.mk
      s.connect a
      s.noDelay
      return s
    catch e => if rest.isEmpty then throw e else connectFirst rest

/-- Begins to connect to a port of a host. -/
def dial (host : String) (port : UInt16) : IO (AsyncTask Socket) :=
  Async.toIO do connectFirst (← addresses host port)

end AlarmKeypad.Network
