import AlarmKeypad.Json.Value
/-!
Numerals of JSON texts.

A numeral without point and exponent that fits in 64 bits is an integer. Any other is a
floating-point number, made of the digits that fit in 64 bits and scaled by one power of ten.
-/

namespace AlarmKeypad.Json.Number

/-- The largest number that the leading digits are kept in. -/
def maxSignificand : Nat := UInt64.size - 1

/-- Appends digits while the number stays within bounds: the number, and the digits left. -/
def absorb (acc : Nat) : List Char → Nat × List Char
  | [] => (acc, [])
  | c :: r =>
    let n := acc * 10 + (c.toNat - 48)
    if n ≤ maxSignificand then absorb n r else (acc, c :: r)

/-- A decimal numeral in parts. -/
structure Parts where
  negative : Bool
  whole : List Char
  fraction : Option (List Char)
  /-- Whether the exponent is negative, and its digits. -/
  exponent : Option (Bool × List Char)

/-- Reads one or more digits. -/
def digits? (cs : List Char) : Option (List Char × List Char) :=
  match cs.span Char.isDigit with
  | ([], _) => none
  | r => some r

def fraction? : List Char → Option (Option (List Char) × List Char)
  | '.' :: r => (digits? r).map fun (ds, r) => (some ds, r)
  | r => some (none, r)

def exponentDigits? (negative : Bool) (r : List Char) :
    Option (Option (Bool × List Char) × List Char) :=
  (digits? r).map fun (ds, r) => (some (negative, ds), r)

def exponent? : List Char → Option (Option (Bool × List Char) × List Char)
  | 'e' :: '+' :: r | 'E' :: '+' :: r => exponentDigits? false r
  | 'e' :: '-' :: r | 'E' :: '-' :: r => exponentDigits? true r
  | 'e' :: r | 'E' :: r => exponentDigits? false r
  | r => some (none, r)

/-- Digits without a leading zero, unless they are one zero. -/
def whole? (cs : List Char) : Option (List Char × List Char) :=
  match digits? cs with
  | some ('0' :: _ :: _, _) => none
  | r => r

/-- The longest numeral at the front, and the rest. -/
def parts? (cs : List Char) : Option (Parts × List Char) := do
  let (negative, r) := match cs with
    | '-' :: r => (true, r)
    | r => (false, r)
  let (whole, r) ← whole? r
  let (fraction, r) ← fraction? r
  let (exponent, r) ← exponent? r
  return (⟨negative, whole, fraction, exponent⟩, r)

/-- The largest power of ten that is one floating-point number. -/
def maxPower : Nat := 308

/-- `x` times a power of ten, multiplied or divided in one step; below the least power the division
goes in steps of the largest one. A product beyond the largest number is refused. -/
def scale (fuel : Nat) (x : Binary64) (e : Int) : Option Binary64 :=
  if e.natAbs ≤ maxPower then
    if 0 ≤ e then
      let y := x.mul (.powerOfTen e.toNat)
      if y.isFinite then some y else none
    else some (x.div (.powerOfTen e.natAbs))
  else if x.isZero then some x
  else if 0 ≤ e then none
  else match fuel with
    | 0 => some .zero
    | fuel + 1 => scale fuel (x.div (.powerOfTen maxPower)) (e + maxPower)

/-- The largest exponent that is taken as it stands. -/
def maxExponent : Nat := UInt32.size / 2 - 1

/-- The number of `significand` and its exponent, moved by the exponent of the text. -/
def scaled? (significand : Nat) (shift : Int) : Option (Bool × List Char) → Option Binary64
  | none => scale 4 (.ofNat significand) shift
  | some (negative, ds) =>
    let e := Text.ofDigits 0 ds
    if maxExponent < e then
      if significand = 0 ∨ negative then some .zero else none
    else scale 4 (.ofNat significand) (if negative then shift - e else shift + e)

/-- The magnitude of a numeral as a floating-point number. -/
def magnitude? (p : Parts) : Option Binary64 :=
  let (lead, dropped) := absorb 0 p.whole
  match p.fraction with
  | none => scaled? lead dropped.length p.exponent
  | some ds =>
    let (significand, left) := absorb lead ds
    scaled? significand (dropped.length - (ds.length - left.length : Nat)) p.exponent

/-- The integer that a numeral stands for, if it is written as one and fits in 64 bits. -/
def integer? (p : Parts) : Option Int :=
  if p.fraction.isSome ∨ p.exponent.isSome then none
  else
    let n := Text.ofDigits 0 p.whole
    if p.negative then if 0 < n ∧ n ≤ UInt64.size / 2 then some (-n) else none
    else if n ≤ maxSignificand then some n else none

def value? (p : Parts) : Option Value :=
  match integer? p with
  | some n => some (.int n)
  | none => (magnitude? p).map fun x => .float (if p.negative then x.neg else x)

end AlarmKeypad.Json.Number
