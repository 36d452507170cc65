import AlarmKeypad.Framing
/-!
A device that follows a script: how it answers connections and what it sends over them.
-/

namespace AlarmKeypad

namespace Device

/-- How a device answers an attempt to connect. -/
inductive Answer where
  | accept
  | refuse
  | never
deriving DecidableEq

/-- How a connection closes. -/
inductive Closing where
  | atOnce
  /-- With a fault, at once too. -/
  | fault
  | never
deriving DecidableEq

structure Script where
  /-- Whether lines go over a stream of bytes; otherwise they go one by one. -/
  stream : Bool
  answer : Answer
  /-- The time before the answer. -/
  answerDelay : Nat
  closing : Closing
  /-- The device's word for how it closes. -/
  closingName : String
  /-- Whether every line to the device fails. -/
  refusesLines : Bool
  /-- What the device sends when it accepts. -/
  greeting : List String
deriving DecidableEq

def Script.default : Script := ⟨false, .accept, 0, .atOnce, "", false, []⟩

/-- What comes from a device. -/
inductive Item where
  | line (s : String)
  | fault
  | hangUp
deriving DecidableEq

/-- What a device has sent over a connection and the keypad has not read. -/
structure Link where
  stream : Bool
  /-- Lines that go one by one, and what goes between them. -/
  items : List Item
  /-- The bytes of a stream. -/
  buffer : LineBuffer
  /-- Whether the device has hung up. -/
  ended : Bool
deriving DecidableEq

namespace Link

def empty (stream : Bool) : Link := ⟨stream, [], .new maxLineLength, false⟩

/-- The device sends bytes, which are a line of their own unless they go over a stream. -/
def push (l : Link) (bytes : List UInt8) : Link :=
  if l.ended then l
  else if l.stream then { l with buffer := l.buffer.append bytes }
  else { l with items := l.items ++ [.line (String.ofList (Text.Utf8.decodeLossy bytes))] }

/-- A fault between two lines; a stream has none. -/
def fault (l : Link) : Link :=
  if l.ended ∨ l.stream then l else { l with items := l.items ++ [.fault] }

def hangUp (l : Link) : Link :=
  if l.ended then l else { l with items := l.items ++ [.hangUp], ended := true }

/-- The next line of a stream; after its end first what is left, then the end. -/
def nextOfStream? (l : Link) : Option (Item × Link) :=
  match l.buffer.next with
  | (some s, b) => some (.line s, { l with buffer := b })
  | (none, b) =>
    if l.ended then
      match b.nextLast with
      | (some s, b) => some (.line s, { l with buffer := b })
      | (none, b) => some (.hangUp, { l with buffer := b })
    else none

/-- What the keypad reads next. -/
def next? (l : Link) : Option (Item × Link) :=
  if l.stream then l.nextOfStream?
  else match l.items with
    | [] => none
    | i :: r => some (i, { l with items := r })

end Link

def Script.accept (s : Script) : Link :=
  s.greeting.foldl (fun l g => l.push (Text.Utf8.encodeString g)) (Link.empty s.stream)

end Device
end AlarmKeypad
