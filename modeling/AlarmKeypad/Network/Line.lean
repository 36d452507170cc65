import AlarmKeypad.Network.Peer
import AlarmKeypad.Network.Target
import AlarmKeypad.Scenario.Relay
import AlarmKeypad.WebSocket.Handshake
import AlarmKeypad.WebSocket.Reader
/-!
The connection of a keypad to its device, as a raw stream or as a WebSocket.
-/

namespace AlarmKeypad.Network

open Scenario Std.Async

/-- Where a connection stands. -/
inductive Line where
  | absent
  | dialing (t : AsyncTask Socket)
  /-- A web server has been asked for a socket; these bytes of its answer are there. -/
  | asking (p : Peer) (key : String) (bytes : List UInt8)
  | stream (p : Peer)
  /-- `closed` if the server has said that it closes. -/
  | socket (p : Peer) (r : WebSocket.Reader) (closed : Bool)

namespace Line

def random (n : USize) : IO (List UInt8) := return (← IO.getRandomBytes n).toList

def sendFrame (p : Peer) (o : WebSocket.Opcode) (payload : List UInt8) : IO Unit := do
  p.send (WebSocket.Frame.encode (← random 4) ⟨true, o, payload⟩)

def sendLine (line : Line) (text : String) : IO Unit := do
  let bytes := Text.Utf8.encodeString text
  match line with
  | .stream p => p.send bytes
  | .socket p _ _ => sendFrame p .text bytes
  | .absent | .dialing _ | .asking .. => return ()

/-- Says that this end closes. -/
def sendClose : Line → IO Unit
  | .socket p _ false => sendFrame p .close []
  | _ => return ()

def drop : Line → IO Unit
  | .stream p | .socket p _ _ | .asking p _ _ => p.close
  | .absent | .dialing _ => return ()

/-- Answers a word of a server; what it means to a keypad, and whether the server closes. -/
def answer (p : Peer) (closed : Bool) : WebSocket.Word → IO (Option Arrival × Bool)
  | .text s => return (some (.bytes (Text.Utf8.encodeString s)), closed)
  | .other => return (none, closed)
  | .ping payload => do
    sendFrame p .pong payload
    return (none, closed)
  | .close code => do
    if !closed then sendFrame p .close code
    return (none, true)
  | .fault => return (some .faulted, closed)

def answerAll (p : Peer) (closed : Bool) :
    List WebSocket.Word → IO (List Arrival × Bool)
  | [] => return ([], closed)
  | w :: ws => do
    let (a, closed) ← answer p closed w
    let (as, closed) ← answerAll p closed ws
    return (a.toList ++ as, closed)

/-- Takes all that a server has said. -/
def hear (p : Peer) (r : WebSocket.Reader) (closed : Bool) : IO (List Arrival × Line) := do
  let (words, r) := r.read
  let (as, closed) ← answerAll p closed words
  return (as, .socket p r closed)

def opened (t : Target) (k : TransportKind) (s : Socket) : IO (List Arrival × Line) := do
  let p ← Peer.ofSocket s
  match k with
  | .tcp => return ([.opened], .stream p)
  | .webSocket =>
    let key := WebSocket.Handshake.key (← random 16)
    p.send (Text.Utf8.encodeString (WebSocket.Handshake.request t.authority t.resource key))
    return ([], .asking p key [])

/-- What has come over the connection by now. -/
def poll (t : Target) (k : TransportKind) (line : Line) : IO (List Arrival × Line) := do
  match line with
  | .absent => return ([], line)
  | .dialing task =>
    match ← progress task with
    | .waiting => return ([], line)
    | .failed => return ([.refused], .absent)
    | .done s => opened t k s
  | .asking p key bytes =>
    match ← progress p.receipt with
    | .waiting => return ([], line)
    | .failed | .done none => return ([.refused], .absent)
    | .done (some news) =>
      let bytes := bytes ++ news.toList
      match WebSocket.Handshake.read key bytes with
      | .incomplete => return ([], .asking (← p.again) key bytes)
      | .refused => return ([.refused], .absent)
      | .opened rest =>
        let (as, line) ← hear (← p.again) (.new rest) false
        return (.opened :: as, line)
  | .stream p =>
    match ← progress p.receipt with
    | .waiting => return ([], line)
    | .failed => return ([.faulted], .absent)
    | .done none => return ([.hungUp], .absent)
    | .done (some news) => return ([.bytes news.toList], .stream (← p.again))
  | .socket p r closed =>
    match ← progress p.receipt with
    | .waiting => return ([], line)
    | .failed => return ([.faulted], .absent)
    | .done none => return ([if closed then .hungUp else .faulted], .absent)
    | .done (some news) => hear (← p.again) (r.append news.toList) closed

/-- Does what a sight of the device asks for. -/
def serve (t : Target) (line : Line) : Sight → IO Line
  | .attempt _ => return .dialing (← dial t.host t.port)
  | .line _ s | .lineFailed _ s => do
    line.sendLine s
    return line
  | .closing .. => do
    line.sendClose
    return line
  | .dropped _ => do
    line.drop
    return .absent

end Line
end AlarmKeypad.Network
