import AlarmKeypad.WebSocket.Bytes
/-!
The SHA-1 digest of bytes, and Base64.
-/

namespace AlarmKeypad.WebSocket

/-! ### SHA-1 -/

/-- The five words of a digest in the making. -/
structure Digest where
  a : UInt32
  b : UInt32
  c : UInt32
  d : UInt32
  e : UInt32
deriving DecidableEq

namespace Digest

def init : Digest := ⟨0x67452301, 0xefcdab89, 0x98badcfe, 0x10325476, 0xc3d2e1f0⟩

def rotate (x n : UInt32) : UInt32 := x <<< n ||| x >>> (32 - n)

/-- The message with a one, zeros and its length in bits behind it: whole blocks of 64 bytes. -/
def padded (m : List UInt8) : List UInt8 :=
  m ++ 0x80 :: List.replicate ((119 - m.length % 64) % 64) 0 ++ bigEndian 8 (8 * m.length)

/-- The pieces of `n` elements, one after the other; `fuel` bounds their number. -/
def pieces {α : Type} (n : Nat) : Nat → List α → List (List α)
  | 0, _ => []
  | _, [] => []
  | fuel + 1, xs => xs.take n :: pieces n fuel (xs.drop n)

/-- The words of a block extended to `n` more, the last in front. -/
def schedule : Nat → List UInt32 → List UInt32
  | 0, ws => ws
  | n + 1, ws =>
    let back (i : Nat) : UInt32 := ws.getD i 0
    schedule n (rotate (back 2 ^^^ back 7 ^^^ back 13 ^^^ back 15) 1 :: ws)

/-- The mixing function of a round and its constant. -/
def mixing (round : Nat) (b c d : UInt32) : UInt32 × UInt32 :=
  if round < 20 then ((b &&& c) ||| (~~~b &&& d), 0x5a827999)
  else if round < 40 then (b ^^^ c ^^^ d, 0x6ed9eba1)
  else if round < 60 then ((b &&& c) ||| (b &&& d) ||| (c &&& d), 0x8f1bbcdc)
  else (b ^^^ c ^^^ d, 0xca62c1d6)

def round (h : Digest) (i : Nat) (w : UInt32) : Digest :=
  let (f, k) := mixing i h.b h.c h.d
  ⟨rotate h.a 5 + f + h.e + k + w, h.a, rotate h.b 30, h.c, h.d⟩

def block (h : Digest) (bs : List UInt8) : Digest :=
  let first := (pieces 4 16 bs).map fun b => (ofBigEndian b).toUInt32
  let words := (schedule 64 first.reverse).reverse
  let g := (words.zipIdx).foldl (fun g (w, i) => g.round i w) h
  ⟨h.a + g.a, h.b + g.b, h.c + g.c, h.d + g.d, h.e + g.e⟩

/-- The digest of a message. -/
def of (m : List UInt8) : Digest :=
  (pieces 64 (m.length / 64 + 2) (padded m)).foldl block init

def toBytes (h : Digest) : List UInt8 :=
  [h.a, h.b, h.c, h.d, h.e].flatMap fun w => bigEndian 4 w.toNat

end Digest

/-! ### Base64 -/

/-- The character of six bits. -/
def base64Char (n : Nat) : Char :=
  if n < 26 then Char.ofNat (65 + n)
  else if n < 52 then Char.ofNat (97 + n - 26)
  else if n < 62 then Char.ofNat (48 + n - 52)
  else if n = 62 then '+' else '/'

/-- Every three bytes make four characters; equals signs stand for missing bytes. -/
def base64 : List UInt8 → List Char
  | [] => []
  | [a] =>
    let n := a.toNat * 16
    [base64Char (n / 64), base64Char (n % 64), '=', '=']
  | [a, b] =>
    let n := (a.toNat * 256 + b.toNat) * 4
    [base64Char (n / 4096), base64Char (n / 64 % 64), base64Char (n % 64), '=']
  | a :: b :: c :: r =>
    let n := (a.toNat * 256 + b.toNat) * 256 + c.toNat
    base64Char (n / 262144) :: base64Char (n / 4096 % 64) :: base64Char (n / 64 % 64) ::
      base64Char (n % 64) :: base64 r

end AlarmKeypad.WebSocket
