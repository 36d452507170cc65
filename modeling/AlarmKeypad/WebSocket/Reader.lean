import AlarmKeypad.Text.Utf8
import AlarmKeypad.WebSocket.Frame
/-!
The messages in a server's frames.
-/

namespace AlarmKeypad.WebSocket

/-- What a server says. -/
inductive Word where
  | text (s : String)
  /-- Something that is no line. -/
  | other
  /-- A question that is answered with its own bytes. -/
  | ping (payload : List UInt8)
  /-- The server closes; the answer carries the same code. -/
  | close (code : List UInt8)
  | fault
deriving DecidableEq

/-- A message whose last frame has not come. -/
structure Draft where
  isText : Bool
  payload : List UInt8
deriving DecidableEq

structure Reader where
  bytes : List UInt8
  draft : Option Draft
deriving DecidableEq

namespace Reader

def new (bytes : List UInt8) : Reader := ⟨bytes, none⟩

def append (r : Reader) (bytes : List UInt8) : Reader := { r with bytes := r.bytes ++ bytes }

/-- The longest message. -/
def maxMessage : Nat := 67108864

/-- A whole message. -/
def wordOf (d : Draft) : Word :=
  if d.isText then
    match Text.Utf8.decodeString? d.payload with
    | some s => .text s
    | none => .fault
  else .other

/-- Takes a part of a message; the last part makes the message whole. -/
def add (r : Reader) (d : Draft) (final : Bool) : Word × Reader :=
  if d.payload.length > maxMessage then (.fault, r)
  else if final then (wordOf d, { r with draft := none })
  else (.other, { r with draft := some d })

/-- What a frame says. -/
def take (r : Reader) (f : Frame) : Word × Reader :=
  match f.opcode, r.draft with
  | .ping, _ => (.ping f.payload, r)
  | .pong, _ => (.other, r)
  | .close, _ => (if f.payload.length = 1 then .fault else .close (f.payload.take 2), r)
  | .continuation, some d => r.add { d with payload := d.payload ++ f.payload } f.final
  | .text, none => r.add ⟨true, f.payload⟩ f.final
  | .binary, none => r.add ⟨false, f.payload⟩ f.final
  | .continuation, none | .text, some _ | .binary, some _ => (.fault, r)

/-- All words whose bytes are there; nothing is read after a fault. -/
def read (r : Reader) : List Word × Reader :=
  match _h : Frame.find r.bytes with
  | .frame f rest =>
    let (w, r') := { r with bytes := rest }.take f
    if w = .fault then ([w], { r' with bytes := [] })
    else
      let (ws, last) := { r' with bytes := rest }.read
      (w :: ws, last)
  | .fault => ([.fault], { r with bytes := [] })
  | .nothing => ([], r)
termination_by r.bytes.length
decreasing_by exact Frame.length_lt_of_find _h

end Reader
end AlarmKeypad.WebSocket
