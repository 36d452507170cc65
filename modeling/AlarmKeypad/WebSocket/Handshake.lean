import AlarmKeypad.Text.Blank
import AlarmKeypad.Text.Utf8
import AlarmKeypad.WebSocket.Digest
/-!
The request that turns a connection to a web server into a WebSocket, and the server's answer.
-/

namespace AlarmKeypad.WebSocket.Handshake

/-- What every server knows to put behind a key. -/
def salt : String := "258EAFA5-E914-47DA-95CA-C5AB0DC85B11"

/-- What a server that has read a key answers. -/
def answer (key : String) : String :=
  String.ofList (base64 (Digest.of (Text.Utf8.encodeString (key ++ salt))).toBytes)

/-- The key made of sixteen random bytes. -/
def key (random : List UInt8) : String := String.ofList (base64 random)

def request (authority path key : String) : String :=
  String.join <|
    ["GET " ++ path ++ " HTTP/1.1", "Host: " ++ authority, "Connection: Upgrade",
      "Upgrade: websocket", "Sec-WebSocket-Version: 13", "Sec-WebSocket-Key: " ++ key, ""].map
      (· ++ "\r\n")

/-- What a server's bytes are, as far as they have come. -/
inductive Answer where
  /-- The socket is open; these bytes come after the answer. -/
  | opened (rest : List UInt8)
  | refused
  | incomplete
deriving DecidableEq

/-- The lines of a head, and the bytes behind the empty line at its end. -/
def head? (bs : List UInt8) : Option (List (List UInt8) × List UInt8) :=
  match bs with
  | [] => none
  | 13 :: 10 :: 13 :: 10 :: r => some ([[]], r)
  | 13 :: 10 :: r => (head? r).map fun (ls, rest) => ([] :: ls, rest)
  | b :: r => (head? r).map fun (ls, rest) =>
    match ls with
    | l :: ls => ((b :: l) :: ls, rest)
    | [] => ([[b]], rest)

def lower (s : String) : String := String.ofList (s.toList.map Char.toLower)

/-- The name and the value of a field, without blanks around the value. -/
def field? (line : String) : Option (String × String) :=
  (Text.splitOnce ':' line.toList).map fun (n, v) =>
    (lower (String.ofList n), Text.trimString (String.ofList v))

/-- Whether a head opens the socket for a key. -/
def opens (key : String) (lines : List String) : Bool :=
  match lines with
  | [] => false
  | status :: fields =>
    let field (n : String) : Option String := (fields.filterMap field?).lookup n
    ((status.splitOn " ").take 2 == ["HTTP/1.1", "101"]) &&
      (field "upgrade").map lower == some "websocket" &&
      (field "connection").map lower == some "upgrade" &&
      field "sec-websocket-accept" == some (answer key)

/-- The longest head. -/
def maxHead : Nat := 65536

def read (key : String) (bs : List UInt8) : Answer :=
  match head? bs with
  | none => if bs.length > maxHead then .refused else .incomplete
  | some (ls, rest) =>
    match ls.mapM Text.Utf8.decodeString? with
    | some lines => if opens key lines then .opened rest else .refused
    | none => .refused

end AlarmKeypad.WebSocket.Handshake
