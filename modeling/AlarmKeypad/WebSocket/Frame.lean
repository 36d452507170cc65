import AlarmKeypad.WebSocket.Bytes
/-!
Frames of a WebSocket. A client masks what it sends; a server does not.
-/

namespace AlarmKeypad.WebSocket

inductive Opcode where
  | continuation
  | text
  | binary
  | close
  | ping
  | pong
deriving DecidableEq

namespace Opcode

def toByte : Opcode → UInt8
  | continuation => 0
  | text => 1
  | binary => 2
  | close => 8
  | ping => 9
  | pong => 10

def ofByte? (b : UInt8) : Option Opcode :=
  [continuation, text, binary, close, ping, pong].find? fun o => o.toByte = b

/-- Whether frames of this kind may come between those of a message. -/
def isControl : Opcode → Bool
  | close | ping | pong => true
  | continuation | text | binary => false

end Opcode

structure Frame where
  /-- Whether it is the last of its message. -/
  final : Bool
  opcode : Opcode
  payload : List UInt8
deriving DecidableEq

namespace Frame

/-- The bytes combined with a key of four bytes, over and over. -/
def mask (key bs : List UInt8) : List UInt8 :=
  bs.zipIdx.map fun (b, i) => b ^^^ key.getD (i % 4) 0

/-- The length of a payload behind the mark of a masked frame. -/
def maskedLength (n : Nat) : List UInt8 :=
  if n < 126 then [(128 + n).toUInt8]
  else if n < 65536 then 254 :: bigEndian 2 n
  else 255 :: bigEndian 8 n

/-- A client's frame, masked with a key of four bytes. -/
def encode (key : List UInt8) (f : Frame) : List UInt8 :=
  ((if f.final then 128 else 0) ||| f.opcode.toByte) :: maskedLength f.payload.length ++ key ++
    mask key f.payload

/-- The longest payload that is taken. -/
def maxPayload : Nat := 16777216

/-- The longest payload of a frame that may come between others. -/
def maxControl : Nat := 125

/-- What is found at the front of a server's bytes. -/
inductive Found where
  | frame (f : Frame) (rest : List UInt8)
  /-- More bytes are needed. -/
  | nothing
  | fault
deriving DecidableEq

/-- The number of bytes that say how long the payload is, and the length if there are none. -/
def lengthSize (b : UInt8) : Nat :=
  if b = 126 then 2 else if b = 127 then 8 else 0

/-- The frame whose payload of `n` bytes comes first; one that may come between others is whole and
short. -/
def take (final : Bool) (o : Opcode) (n : Nat) (bs : List UInt8) : Found :=
  if n > maxPayload ∨ (o.isControl ∧ (¬final ∨ n > maxControl)) then .fault
  else if bs.length < n then .nothing
  else .frame ⟨final, o, bs.take n⟩ (bs.drop n)

/-- The frame at the front of a server's bytes. -/
def find : List UInt8 → Found
  | first :: second :: r =>
    match Opcode.ofByte? (first &&& 0x0f) with
    | none => .fault
    | some o =>
      if first &&& 0x70 ≠ 0 ∨ second ≥ 128 then .fault
      else if r.length < lengthSize second then .nothing
      else
        take (first ≥ 128) o
          (if lengthSize second = 0 then second.toNat else ofBigEndian (r.take (lengthSize second)))
          (r.drop (lengthSize second))
  | _ => .nothing

theorem length_le_of_take {final : Bool} {o : Opcode} {n : Nat} {bs rest : List UInt8} {f : Frame}
    (h : take final o n bs = .frame f rest) : rest.length ≤ bs.length := by
  unfold take at h
  split at h
  · simp at h
  split at h
  · simp at h
  · simp only [Found.frame.injEq] at h
    rw [← h.2, List.length_drop]
    omega

theorem length_lt_of_find {bs rest : List UInt8} {f : Frame} (h : find bs = .frame f rest) :
    rest.length < bs.length := by
  unfold find at h
  split at h
  · split at h
    · simp at h
    split at h
    · simp at h
    split at h
    · simp at h
    · have := length_le_of_take h
      rw [List.length_drop] at this
      simp only [List.length_cons]
      omega
  · simp at h

end Frame
end AlarmKeypad.WebSocket
