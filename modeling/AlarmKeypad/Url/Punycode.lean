import AlarmKeypad.Text.Numeral
/-!
Punycode: a label of any characters in letters, digits and hyphens.

The characters beyond ASCII are inserted in order of their code points; each insertion is written as
a number, the distance from the one before it, in digits of base 36 whose weights adapt.
-/

namespace AlarmKeypad.Url.Punycode

def base : Nat := 36

/-- The value below which a digit at weight `k` ends its number. -/
def threshold (k bias : Nat) : Nat :=
  if k ≤ bias then 1 else min 26 (k - bias)

/-- Divides until the number fits three digits; `k` grows with each division. -/
def shrink (fuel delta k : Nat) : Nat × Nat :=
  match fuel with
  | 0 => (delta, k)
  | fuel + 1 => if 455 < delta then shrink fuel (delta / 35) (k + base) else (delta, k)

/-- The bias after a number `delta` of a text that now has `count` characters. -/
def adapt (delta count : Nat) (first : Bool) : Nat :=
  let delta := if first then delta / 700 else delta / 2
  let (delta, k) := shrink 16 (delta + delta / count) 0
  k + base * delta / (delta + 38)

def digitChar (d : Nat) : Char := Char.ofNat (if d < 26 then 97 + d else 22 + d)

def digit? (c : Char) : Option Nat :=
  if 'a' ≤ c ∧ c ≤ 'z' then some (c.toNat - 97)
  else if 'A' ≤ c ∧ c ≤ 'Z' then some (c.toNat - 65)
  else if c.isDigit then some (c.toNat - 22)
  else none

/-- The digits of `q`, from weight `k` on. -/
def digits (fuel bias k q : Nat) : List Char :=
  let t := threshold k bias
  match fuel with
  | 0 => []
  | fuel + 1 =>
    if q < t then [digitChar q]
    else digitChar (t + (q - t) % (base - t)) :: digits fuel bias (k + base) ((q - t) / (base - t))

structure Encoder where
  delta : Nat
  bias : Nat
  handled : Nat
  /-- The digits so far, the last first. -/
  output : List Char

/-- Passes one character of the text while characters with code point `n` are inserted. -/
def Encoder.pass (basic n : Nat) (e : Encoder) (c : Char) : Encoder :=
  if c.toNat < n then { e with delta := e.delta + 1 }
  else if c.toNat = n then
    { delta := 0
      bias := adapt e.delta (e.handled + 1) (e.handled = basic)
      handled := e.handled + 1
      output := (digits 32 e.bias base e.delta).reverse ++ e.output }
  else e

/-- Inserts the characters with the code points of the list, which is in ascending order. -/
def Encoder.insert (text : List Char) (basic : Nat) : List Nat → Nat → Encoder → Encoder
  | [], _, e => e
  | m :: r, n, e =>
    let e := { e with delta := e.delta + (m - n) * (e.handled + 1) }
    let e := text.foldl (Encoder.pass basic m) e
    insert text basic r (m + 1) { e with delta := e.delta + 1 }

def isBasic (c : Char) : Bool := c.toNat < 0x80

/-- The code points beyond ASCII, in ascending order and each once. -/
def codePoints (text : List Char) : List Nat :=
  let ns := (text.filter fun c => !isBasic c).map Char.toNat
  (ns.mergeSort fun a b => a ≤ b).eraseReps

def encode (text : List Char) : List Char :=
  let basic := text.filter isBasic
  let start : Encoder := ⟨0, 72, basic.length, []⟩
  let e := start.insert text basic.length (codePoints text) 0x80
  (if basic = [] then [] else basic ++ ['-']) ++ e.output.reverse

/-- Reads one number: its value added to `i`, and the text after it. -/
def number? (bias : Nat) (k w i : Nat) : List Char → Option (Nat × List Char)
  | [] => none
  | c :: r => do
    let d ← digit? c
    let i := i + d * w
    let t := threshold k bias
    if UInt32.size ≤ i then none
    else if d < t then return (i, r)
    else number? bias (k + base) (w * (base - t)) i r

/-- Reads the insertions; each takes a character of the text. -/
def insertions? (fuel bias n i : Nat) (output : List Char) (cs : List Char) :
    Option (List Char) :=
  match cs, fuel with
  | [], _ => some output
  | _, 0 => none
  | cs, fuel + 1 => do
    let (j, r) ← number? bias base 1 i cs
    let count := output.length + 1
    let n := n + j / count
    if n < 0x110000 ∧ ¬(0xD800 ≤ n ∧ n < 0xE000) then
      let p := j % count
      insertions? fuel (adapt (j - i) count (i = 0)) n (p + 1)
        (output.take p ++ Char.ofNat n :: output.drop p) r
    else none

/-- What stands before and after the last hyphen. -/
def splitLast (cs : List Char) : List Char × List Char :=
  let digits := (cs.reverse.takeWhile (· ≠ '-')).reverse
  (cs.take (cs.length - digits.length - 1), digits)

/-- The text that `cs` encodes. -/
def decode? (cs : List Char) : Option (List Char) :=
  let (basic, digits) := splitLast cs
  if basic.all isBasic then insertions? digits.length 72 0x80 0 basic digits else none

end AlarmKeypad.Url.Punycode
