import AlarmKeypad.Binary64
import AlarmKeypad.Toml.Value
/-!
Integers, floating-point numbers, dates and times of TOML texts.
-/

namespace AlarmKeypad.Toml.Number

/-- Digits, of which any two may have an underscore between them; the first has been read. -/
def moreDigits? (isDigit : Char → Bool) : List Char → Option (List Char × List Char)
  | [] => some ([], [])
  | '_' :: d :: r =>
    if isDigit d then (moreDigits? isDigit r).map fun (ds, rest) => (d :: ds, rest) else none
  | '_' :: [] => none
  | d :: r =>
    if isDigit d then (moreDigits? isDigit r).map fun (ds, rest) => (d :: ds, rest)
    else some ([], d :: r)

/-- One or more digits. -/
def digits? (isDigit : Char → Bool) : List Char → Option (List Char × List Char)
  | d :: r =>
    if isDigit d then (moreDigits? isDigit r).map fun (ds, rest) => (d :: ds, rest) else none
  | [] => none

/-- Digits without a leading zero, or one zero. -/
def whole? : List Char → Option (List Char × List Char)
  | '0' :: r => some (['0'], r)
  | cs => digits? Char.isDigit cs

/-- The least and the greatest integer. -/
def inRange (n : Int) : Bool := Int64.minValue.toInt ≤ n && n ≤ Int64.maxValue.toInt

def integer? (n : Int) : Option Value := if inRange n then some (.integer n) else none

/-- The integer that digits of a base other than ten spell. -/
def based? (base : Nat) (cs : List Char) : Option (Value × List Char) := do
  let isDigit (c : Char) : Bool := (Text.hexDigit? c).any (· < base)
  let (ds, rest) ← digits? isDigit cs
  let n := ds.foldl (fun n c => n * base + (Text.hexDigit? c).getD 0) 0
  return (← integer? n, rest)

/-- The digits after a point, if the first character is one. -/
def fraction? : List Char → Option (Option (List Char) × List Char)
  | '.' :: r => (digits? Char.isDigit r).map fun (ds, rest) => (some ds, rest)
  | r => some (none, r)

def exponentDigits? (negative : Bool) (cs : List Char) : Option (Option Int × List Char) :=
  (digits? Char.isDigit cs).map fun (ds, rest) =>
    let e : Int := Text.ofDigits 0 ds
    (some (if negative then -e else e), rest)

def exponent? : List Char → Option (Option Int × List Char)
  | 'e' :: '-' :: r | 'E' :: '-' :: r => exponentDigits? true r
  | 'e' :: '+' :: r | 'E' :: '+' :: r => exponentDigits? false r
  | 'e' :: r | 'E' :: r => exponentDigits? false r
  | r => some (none, r)

/-- Whether the digits with a point before them, times a power of ten, are finite. -/
def isFinite (digits : List Char) (e : Int) : Bool :=
  if digits.all (· == '0') then true
  else
    let zeros := (digits.takeWhile (· == '0')).length
    if e - zeros < 300 then true
    else if 320 < e - zeros then false
    else
      let n := Text.ofDigits 0 digits
      let k := e - digits.length
      (if 0 ≤ k then Binary64.ofRatio (n * Nat.pow 10 k.toNat) 1
        else Binary64.ofRatio n (Nat.pow 10 (-k).toNat)).isFinite

/-- A decimal number; `sign` is what stands in front of it. With a point or an exponent it is a
floating-point number, which must be finite unless it is negative. -/
def decimal? (sign cs : List Char) : Option (Value × List Char) := do
  let (whole, r) ← whole? cs
  let (fraction, r) ← fraction? r
  let (e, rest) ← exponent? r
  if fraction.isNone && e.isNone then
    let n : Int := Text.ofDigits 0 whole
    return (← integer? (if sign = ['-'] then -n else n), rest)
  else if sign = ['-'] || isFinite (whole ++ fraction.getD []) (whole.length + e.getD 0) then
    return (.float (String.ofList (sign ++ cs.take (cs.length - rest.length))), rest)
  else none

/-- A number after its sign. -/
def unsigned? (sign : List Char) : List Char → Option (Value × List Char)
  | 'i' :: 'n' :: 'f' :: r => some (.float (String.ofList (sign ++ ['i', 'n', 'f'])), r)
  | 'n' :: 'a' :: 'n' :: r => some (.float (String.ofList (sign ++ ['n', 'a', 'n'])), r)
  | cs => decimal? sign cs

/-! ### Dates and times -/

/-- `n` digits at the front, as a number, and the text after them. -/
def fixed? (n : Nat) (cs : List Char) : Option (Nat × List Char) :=
  (Text.natural? (cs.take n)).bind fun v =>
    if (cs.take n).length = n then some (v, cs.drop n) else none

/-- Two digits between two bounds. -/
def field? (low high : Nat) (cs : List Char) : Option (Nat × List Char) :=
  (fixed? 2 cs).filter fun (v, _) => low ≤ v && v ≤ high

def after? (c : Char) : List Char → Option (List Char)
  | [] => none
  | x :: r => if x = c then some r else none

def isLeap (year : Nat) : Bool := year % 4 == 0 && (year % 100 != 0 || year % 400 == 0)

def daysIn (year month : Nat) : Nat :=
  if month = 2 then if isLeap year then 29 else 28
  else if month ∈ [4, 6, 9, 11] then 30 else 31

/-- The text after a month and a day of a year, whose hyphen has been read. -/
def monthDay? (year : Nat) (cs : List Char) : Option (List Char) := do
  let (month, r) ← field? 1 12 cs
  let (_, rest) ← field? 1 (daysIn year month) (← after? '-' r)
  return rest

/-- The text after the fraction of a second, if there is one. -/
def dropFraction (cs : List Char) : List Char :=
  match cs with
  | '.' :: d :: r => if d.isDigit then r.dropWhile Char.isDigit else cs
  | _ => cs

/-- The text after the minutes and seconds of a time, whose first colon has been read. -/
def minuteSecond? (cs : List Char) : Option (List Char) := do
  let (_, r) ← field? 0 59 cs
  let (_, r) ← field? 0 60 (← after? ':' r)
  return dropFraction r

/-- The text after a distance from universal time, if there is one. -/
def zone? (cs : List Char) : Option (List Char) :=
  match cs with
  | 'Z' :: r | 'z' :: r => some r
  | '+' :: r | '-' :: r => do
    let (_, r) ← field? 0 23 r
    let (_, r) ← field? 0 59 (← after? ':' r)
    return r
  | r => some r

/-- The hour and the colon behind it, and the text after them. -/
def hour? (cs : List Char) : Option (List Char) := do
  let (_, r) ← field? 0 23 cs
  after? ':' r

/-- The text after the time of day behind a date, if there is one. -/
def timeOfDay? (cs : List Char) : Option (List Char) :=
  match cs with
  | [] => some []
  | c :: r =>
    if c = 'T' ∨ c = 't' ∨ c = ' ' then
      match hour? r with
      | none => some cs
      | some r => do zone? (← minuteSecond? r)
    else some cs

/-- The year and the hyphen behind it, and the text after them. -/
def year? (cs : List Char) : Option (Nat × List Char) := do
  let (year, r) ← fixed? 4 cs
  return (year, ← after? '-' r)

/-- The text after a date or a time at the front. `none` says that there is none, `some none` that
it is wrong. -/
def date? (cs : List Char) : Option (Option (List Char)) :=
  match year? cs with
  | some (year, r) => some do timeOfDay? (← monthDay? year r)
  | none => (hour? cs).map minuteSecond?

/-- The number, date or time at the front, and the text after it. -/
def read? (cs : List Char) : Option (Value × List Char) :=
  match date? cs with
  | some none => none
  | some (some rest) => some (.date (String.ofList (cs.take (cs.length - rest.length))), rest)
  | none =>
    match cs with
    | '+' :: r => unsigned? ['+'] r
    | '-' :: r => unsigned? ['-'] r
    | '0' :: 'x' :: r => based? 16 r
    | '0' :: 'o' :: r => based? 8 r
    | '0' :: 'b' :: r => based? 2 r
    | r => unsigned? [] r

end AlarmKeypad.Toml.Number
