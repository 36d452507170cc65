import AlarmKeypad.Network.Console
import AlarmKeypad.Replay.Invocation
import AlarmKeypad.Replay.Operator
/-!
A replay server on the network and its operator.
-/

namespace AlarmKeypad.Network

open Cli Replay Std.Async

structure Listener where
  socket : TCP.Socket.Server
  accepting : AsyncTask Socket

namespace Listener

/-- Listens on an address, if the machine lets it. -/
def bind? (a : SocketAddress) : IO (Option Listener) := do
  try
    let s ← TCP.Socket.Server.mk
    s.bind (withPort a.port (ofIp a.ip))
    s.listen 1024
    return some ⟨s, ← Async.toIO s.accept⟩
  catch _ => return none

def again (l : Listener) : IO Listener := do
  return { l with accepting := ← Async.toIO l.socket.accept }

end Listener

/-- A server at work: its clients' connections by their names. -/
structure Service where
  server : Server
  operator : Operator
  listener : Listener
  peers : List (String × Peer)
  keys : Keys
  interrupt : Interrupt
  clientCount : Nat
  begun : Nat
  rank : Nat
  color : Bool

namespace Service

def writeJournal (s : Service) (e : Journal.Entry) : IO Unit := do
  if e.isWritten s.rank then IO.eprint (e.text s.color (← journalStamp))

/-- Sends what the sessions have written since an earlier state, and closes what they have left. -/
def deliver (s : Service) (before : Server) : IO Service := do
  for (name, text) in Server.received before s.server do
    match s.peers.lookup name with
    | some p => p.beginSend (Text.Utf8.encodeString text)
    | none => pure ()
  let left := s.peers.filter fun (name, _) => !s.server.isConnected name
  for (_, p) in left do
    p.beginClose
    s.writeJournal ⟨.info, "client disconnected", []⟩
  return { s with
    server := s.server.forget
    peers := s.peers.filter fun (name, _) => s.server.isConnected name }

def accept (s : Service) : IO Service := do
  match ← progress s.listener.accepting with
  | .waiting => return s
  | .failed => return { s with listener := ← s.listener.again }
  | .done socket =>
    let name := Text.decimalString s.clientCount
    let listener ← s.listener.again
    match s.server.connect name with
    | .error _ => return { s with listener := listener }
    | .ok server =>
      s.writeJournal ⟨.info, "client connected", []⟩
      return { s with
        server := server
        listener := listener
        peers := s.peers ++ [(name, ← Peer.ofSocket socket)]
        clientCount := s.clientCount + 1 }

/-- What a client has sent by now. -/
def hear (s : Service) (name : String) (p : Peer) : IO Service := do
  match ← progress p.receipt with
  | .waiting => return s
  | .failed | .done none => return { s with server := s.server.disconnect name }
  | .done (some bytes) =>
    let q ← p.again
    return { s with
      server := s.server.send name bytes.toList
      peers := s.peers.map fun (n, r) => if n = name then (n, q) else (n, r) }

def hearAll (s : Service) : IO Service := s.peers.foldlM (fun s (n, p) => s.hear n p) s

/-- The operator acts, and is told what comes of it. -/
def operate (s : Service) (i : OperatorInput) : IO Service := do
  let operator := s.operator.step i
  let told := operator.told.take (operator.told.length - s.operator.told.length)
  IO.eprint ({ operator with told := told } : Operator).text
  return { s with operator := operator, server := s.server.setPaused operator.paused }

def watch (s : Service) : IO Service := do
  let (pressed, keys) ← Keys.poll s.keys
  let s ← pressed.foldlM (fun s i => s.operate (.keyboard i)) { s with keys := keys }
  if ← IO.hasFinished s.interrupt then
    let i := if s.operator.terminal then .keyboard interruptKey else OperatorInput.interrupt
    ({ s with interrupt := ← awaitInterrupt }).operate i
  else return s

/-- Serves until the operator ends it. -/
partial def run (s : Service) : IO Exit := do
  let s ← s.watch
  match s.operator.ending with
  | some (.ok ()) =>
    discard <| { s with server := s.server.stop }.deliver s.server
    return servedExit
  | some (.error f) => return exitOfFault (.io f)
  | none =>
    let heard ← (← s.accept).hearAll
    let passed := (← IO.monoMsNow) - s.begun - heard.server.now
    let after := { heard with server := heard.server.advance passed }
    let next ← after.deliver s.server
    IO.sleep glance
    next.run

end Service

/-- Serves clients on an address. -/
def runServer (server : Server) (a : SocketAddress) (terminal : Bool) (rank : Nat) (color : Bool) :
    IO Exit := do
  match ← Listener.bind? a with
  | none => return exitOfFault (.bind a.text)
  | some listener =>
    let operator := Operator.new terminal
    IO.eprint operator.text
    let s : Service :=
      { server, operator, listener, rank, color
        keys := if terminal then .ready else .absent
        peers := []
        interrupt := ← awaitInterrupt
        clientCount := 0
        begun := ← IO.monoMsNow }
    s.writeJournal ⟨.info, "listening for connections",
      [("addr", a.text), ("lines", Journal.number server.log.size)]⟩
    s.run

end AlarmKeypad.Network
