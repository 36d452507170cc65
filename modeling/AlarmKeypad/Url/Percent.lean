import AlarmKeypad.Text.Numeral
import AlarmKeypad.Text.Utf8
/-!
Percent signs in front of two hexadecimal digits, one pair for a byte.

Each part of a URL has its own set of ASCII characters that are written so; control characters and
characters beyond ASCII always are.
-/

namespace AlarmKeypad.Url.Percent

def upperHex (n : Nat) : Char := Char.ofNat (if n < 10 then 48 + n else 55 + n)

def encodeByte (b : UInt8) : List Char :=
  ['%', upperHex (b.toNat / 16), upperHex (b.toNat % 16)]

/-- A character, encoded if it is in the set. -/
def encodeChar (set : Char → Bool) (c : Char) : List Char :=
  if c.toNat < 0x20 || 0x7F ≤ c.toNat || set c then (Text.Utf8.encodeChar c).flatMap encodeByte
  else [c]

def encode (set : Char → Bool) (cs : List Char) : List Char := cs.flatMap (encodeChar set)

def controls (_ : Char) : Bool := false

def fragment (c : Char) : Bool := [' ', '"', '<', '>', '\x60'].contains c

def query (c : Char) : Bool := [' ', '"', '#', '<', '>'].contains c

def specialQuery (c : Char) : Bool := query c || c == '\''

def path (c : Char) : Bool := fragment c || ['#', '?', '\x7b', '\x7d'].contains c

def userInfo (c : Char) : Bool :=
  path c || ['/', ':', ';', '=', '@', '[', '\\', ']', '^', '|'].contains c

/-- The bytes of a text whose encoded bytes stand for themselves; a percent sign without two digits
behind it stays. -/
def decode : List Char → List UInt8
  | [] => []
  | '%' :: a :: b :: r =>
    match Text.hexDigit? a, Text.hexDigit? b with
    | some x, some y => (x * 16 + y).toUInt8 :: decode r
    | _, _ => 0x25 :: decode (a :: b :: r)
  | c :: r => Text.Utf8.encodeChar c ++ decode r

end AlarmKeypad.Url.Percent
