/-!
UTF-8 over lists of bytes: the bytes of a text, strict reading, and reading that puts U+FFFD in
place of what is not a character.

`front` takes one character off the bytes, or the longest start of one that is no character; both
readings are a fold of it.
-/

namespace AlarmKeypad.Text.Utf8

/-- The bytes of one character, by the size of its code point. -/
def encodeChar (c : Char) : List UInt8 :=
  let n := c.toNat
  if n < 0x80 then [n.toUInt8]
  else if n < 0x800 then [(0xC0 + n / 64).toUInt8, (0x80 + n % 64).toUInt8]
  else if n < 0x10000 then
    [(0xE0 + n / 4096).toUInt8, (0x80 + n / 64 % 64).toUInt8, (0x80 + n % 64).toUInt8]
  else
    [(0xF0 + n / 262144).toUInt8, (0x80 + n / 4096 % 64).toUInt8, (0x80 + n / 64 % 64).toUInt8,
      (0x80 + n % 64).toUInt8]

def encode (cs : List Char) : List UInt8 := cs.flatMap encodeChar

def encodeString (s : String) : List UInt8 := encode s.toList

/-- The least and greatest second byte that a first byte allows, and the count of bytes after the
first. Shorter forms, surrogates and code points above U+10FFFF have no first and second byte. -/
def lead (b : UInt8) : Option (Nat × UInt8 × UInt8) :=
  if b < 0xC2 then none
  else if b < 0xE0 then some (1, 0x80, 0xBF)
  else if b == 0xE0 then some (2, 0xA0, 0xBF)
  else if b == 0xED then some (2, 0x80, 0x9F)
  else if b < 0xF0 then some (2, 0x80, 0xBF)
  else if b == 0xF0 then some (3, 0x90, 0xBF)
  else if b < 0xF4 then some (3, 0x80, 0xBF)
  else if b == 0xF4 then some (3, 0x80, 0x8F)
  else none

/-- Reads `k` more bytes of a character whose bits so far are `acc`; the next one lies between
`lo` and `hi`. -/
def tail (k : Nat) (lo hi : UInt8) (acc : Nat) (bs : List UInt8) : Option Char × List UInt8 :=
  match k, bs with
  | 0, bs => (some (Char.ofNat acc), bs)
  | _ + 1, [] => (none, [])
  | k + 1, b :: r =>
    if lo ≤ b && b ≤ hi then tail k 0x80 0xBF (acc * 64 + (b.toNat - 0x80)) r else (none, b :: r)

/-- The value bits of a first byte with `k` bytes after it. -/
def leadBits (b : UInt8) (k : Nat) : Nat := b.toNat % Nat.pow 2 (6 - k)

/-- The character that starts with byte `b`, or none, and the bytes after what was read. -/
def front (b : UInt8) (r : List UInt8) : Option Char × List UInt8 :=
  if b < 0x80 then (some (Char.ofNat b.toNat), r)
  else match lead b with
    | none => (none, r)
    | some (k, lo, hi) => tail k lo hi (leadBits b k) r

theorem length_tail_le (k : Nat) (lo hi : UInt8) (acc : Nat) (bs : List UInt8) :
    (tail k lo hi acc bs).2.length ≤ bs.length := by
  induction k generalizing lo hi acc bs with
  | zero => simp [tail]
  | succ k ih =>
    cases bs with
    | nil => simp [tail]
    | cons b r =>
      simp only [tail]
      split
      · exact Nat.le_succ_of_le (ih ..)
      · simp

theorem length_front_le (b : UInt8) (r : List UInt8) : (front b r).2.length ≤ r.length := by
  unfold front
  split
  · simp
  · split
    · simp
    · exact length_tail_le ..

/-- The text of the bytes, if all of them are characters. -/
def decode? (bs : List UInt8) : Option (List Char) :=
  match bs with
  | [] => some []
  | b :: r =>
    match (front b r).1 with
    | none => none
    | some c => (decode? (front b r).2).map (c :: ·)
termination_by bs.length
decreasing_by exact Nat.lt_succ_of_le (length_front_le b r)

def decodeString? (bs : List UInt8) : Option String := (decode? bs).map String.ofList

/-- The text of the bytes, with one U+FFFD for every longest start of a character that is none. -/
def decodeLossy (bs : List UInt8) : List Char :=
  match bs with
  | [] => []
  | b :: r => (front b r).1.getD '\uFFFD' :: decodeLossy (front b r).2
termination_by bs.length
decreasing_by exact Nat.lt_succ_of_le (length_front_le b r)

end AlarmKeypad.Text.Utf8
