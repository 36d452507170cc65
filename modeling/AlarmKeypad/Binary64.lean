import AlarmKeypad.Text.Numeral
/-!
Floating-point numbers with 53 significant bits, as their 64 bits, in exact arithmetic.

`ofRatio` rounds a quotient of naturals to the nearest such number, an exact half to the even
neighbour; reading and multiplying go through it. `shortest` finds the fewest decimal digits that
read back.
-/

namespace AlarmKeypad

/-- A floating-point number by its bits: a sign, eleven bits of exponent and 52 of significand. -/
structure Binary64 where
  bits : UInt64
deriving DecidableEq

namespace Binary64

def zero : Binary64 := ⟨0⟩

def infinityBits : Nat := 0x7FF0000000000000

/-- The least significand of a normal number, and the bits of a step of the exponent. -/
def unit : Nat := 0x10000000000000

def isNegative (x : Binary64) : Bool := UInt64.size / 2 ≤ x.bits.toNat

/-- The bits without the sign. -/
def magnitude (x : Binary64) : Nat := x.bits.toNat % (UInt64.size / 2)

def isFinite (x : Binary64) : Bool := x.magnitude < infinityBits

def isZero (x : Binary64) : Bool := x.magnitude == 0

def neg (x : Binary64) : Binary64 := ⟨x.bits ^^^ 0x8000000000000000⟩

/-- The quotient rounded to a natural number, an exact half to the even one. -/
def divRound (num den : Nat) : Nat :=
  let q := num / den
  let r := 2 * (num % den)
  if r < den then q else if den < r then q + 1 else q + q % 2

/-- `num / den / 2 ^ e` as a quotient of naturals. -/
def scaleDown (num den : Nat) (e : Int) : Nat × Nat :=
  if 0 ≤ e then (num, den * Nat.pow 2 e.toNat) else (num * Nat.pow 2 (-e).toNat, den)

/-- The power of two that leaves 53 bits before the point of `num / den`, or the least there is. -/
def quantum (num den : Nat) : Int :=
  let e : Int := (Nat.log2 num : Int) - Nat.log2 den - 53
  let (n, d) := scaleDown num den e
  let e := if n < d * (2 * unit) then e else e + 1
  max e (-1074)

/-- The nearest number to `num / den`; infinity beyond the largest. -/
def ofRatio (num den : Nat) : Binary64 :=
  if num = 0 then zero
  else
    let e := quantum num den
    let (n, d) := scaleDown num den e
    let m := divRound n d
    let biased := (e + 1074).toNat
    let bits := if m < unit then m else (biased + 1) * unit + (m - unit)
    ⟨(min bits infinityBits).toUInt64⟩

/-- The significand and the power of two whose product is the magnitude. -/
def decompose (x : Binary64) : Nat × Int :=
  let field : Nat := x.magnitude / unit
  let frac : Nat := x.magnitude % unit
  if field = 0 then (frac, -1074) else (unit + frac, (field : Int) - 1075)

/-- The magnitude as a quotient of naturals. -/
def toRatio (x : Binary64) : Nat × Nat :=
  let (m, e) := x.decompose
  if 0 ≤ e then (m * Nat.pow 2 e.toNat, 1) else (m, Nat.pow 2 (-e).toNat)

def ofNat (n : Nat) : Binary64 := ofRatio n 1

/-- The nearest number to the product of two magnitudes. -/
def mul (x y : Binary64) : Binary64 :=
  let (a, b) := x.toRatio
  let (c, d) := y.toRatio
  ofRatio (a * c) (b * d)

/-- The nearest number to the quotient of two magnitudes. -/
def div (x y : Binary64) : Binary64 :=
  let (a, b) := x.toRatio
  let (c, d) := y.toRatio
  ofRatio (a * d) (b * c)

/-- The nearest number to a power of ten. -/
def powerOfTen (e : Nat) : Binary64 := ofNat (Nat.pow 10 e)

/-- Decimal digits, as a number without trailing zeros, and the power of ten they are scaled by. -/
structure Decimal where
  digits : Nat
  exponent : Int
deriving DecidableEq

/-- `n * 10 ^ e` over a power of ten: what `d * 10 ^ e` is compared with. -/
def Decimal.toRatio (x : Decimal) : Nat × Nat :=
  if 0 ≤ x.exponent then (x.digits * Nat.pow 10 x.exponent.toNat, 1)
  else (x.digits, Nat.pow 10 (-x.exponent).toNat)

/-- Whether `x` is the number nearest to the decimal. -/
def readsBack (x : Binary64) (d : Decimal) : Bool :=
  let (n, m) := d.toRatio
  (ofRatio n m).magnitude == x.magnitude

/-- The number of decimal digits before the point of `num / den`; zero or less below one tenth. -/
def decimalPoint (num den : Nat) : Int :=
  let guess : Int := ((Nat.toDigits 10 num).length : Int) - (Nat.toDigits 10 den).length
  if 0 ≤ guess then if num < den * Nat.pow 10 guess.toNat then guess else guess + 1
  else if num * Nat.pow 10 (-guess).toNat < den then guess else guess + 1

/-- The two neighbours of `num / den` among the multiples of `10 ^ e`, the nearer one first and of
two equally near the even one. -/
def neighbours (num den : Nat) (e : Int) : Decimal × Decimal :=
  let (n, d) :=
    if 0 ≤ e then (num, den * Nat.pow 10 e.toNat) else (num * Nat.pow 10 (-e).toNat, den)
  let q := n / d
  let low : Decimal := ⟨q, e⟩
  let high : Decimal := ⟨q + 1, e⟩
  if divRound n d = q then (low, high) else (high, low)

def dropZeros (fuel : Nat) (d : Decimal) : Decimal :=
  match fuel with
  | 0 => d
  | fuel + 1 =>
    if d.digits ≠ 0 ∧ d.digits % 10 = 0 then dropZeros fuel ⟨d.digits / 10, d.exponent + 1⟩ else d

/-- A decimal with `n` digits that reads back as `x`, the nearest one. -/
def decimalOfLength? (x : Binary64) (n : Nat) : Option Decimal :=
  let (num, den) := x.toRatio
  let (near, far) := neighbours num den (decimalPoint num den - n)
  if x.readsBack near then some near else if x.readsBack far then some far else none

/-- The fewest digits that read back as the magnitude of `x`, and of those the nearest. -/
def shortest (x : Binary64) : Decimal :=
  if x.isZero then ⟨0, 0⟩
  else match (List.range 17).findSome? fun n => x.decimalOfLength? (n + 1) with
    | some d => dropZeros 20 d
    | none => ⟨0, 0⟩

end Binary64
end AlarmKeypad
