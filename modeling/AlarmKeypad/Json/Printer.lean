import AlarmKeypad.Json.Value
/-!
JSON texts of values, without blanks.
-/

namespace AlarmKeypad.Json

/-- A lower-case hexadecimal digit. -/
def hexChar (n : Nat) : Char := Char.ofNat (if n < 10 then 48 + n else 87 + n)

/-- A character inside a string: quotes, backslashes and control characters are escaped. -/
def escapeChar (c : Char) : List Char :=
  if c = '"' then ['\\', '"']
  else if c = '\\' then ['\\', '\\']
  else if c = '\x08' then ['\\', 'b']
  else if c = '\t' then ['\\', 't']
  else if c = '\n' then ['\\', 'n']
  else if c = '\x0c' then ['\\', 'f']
  else if c = '\r' then ['\\', 'r']
  else if c.toNat < 0x20 then
    ['\\', 'u', '0', '0', hexChar (c.toNat / 16), hexChar (c.toNat % 16)]
  else [c]

def renderString (s : String) : List Char := '"' :: s.toList.flatMap escapeChar ++ ['"']

/-- An integer in decimal. -/
def renderInt : Int → List Char
  | .ofNat n => Text.decimal n
  | .negSucc n => '-' :: Text.decimal (n + 1)

/-- The exponents of the first digit between which a number is written without an exponent. -/
def isPositional (e : Int) : Bool := -5 ≤ e && e ≤ 15

/-- The exponent of a number: its sign and at least two digits. -/
def renderExponent (e : Int) : List Char :=
  let ds := Text.decimal e.natAbs
  (if e < 0 then '-' else '+') :: (if ds.length < 2 then '0' :: ds else ds)

/-- A positive decimal: with a point and a digit after it, or with one digit before the point and an
exponent. -/
def renderDecimal (d : Binary64.Decimal) : List Char :=
  let ds := Text.decimal d.digits
  let e : Int := d.exponent + ds.length - 1
  if isPositional e then
    if 0 ≤ d.exponent then ds ++ List.replicate d.exponent.toNat '0' ++ ['.', '0']
    else if 0 ≤ e then ds.take (e.toNat + 1) ++ '.' :: ds.drop (e.toNat + 1)
    else '0' :: '.' :: List.replicate ((-e).toNat - 1) '0' ++ ds
  else match ds with
    | [c] => c :: 'e' :: renderExponent e
    | c :: r => c :: '.' :: r ++ 'e' :: renderExponent e
    | [] => []

/-- The fewest digits that read back. -/
def renderFloat (x : Binary64) : List Char :=
  let text := if x.isZero then ['0', '.', '0'] else renderDecimal x.shortest
  if x.isNegative then '-' :: text else text

namespace Value

mutual

def render : Value → List Char
  | .null => ['n', 'u', 'l', 'l']
  | .bool true => ['t', 'r', 'u', 'e']
  | .bool false => ['f', 'a', 'l', 's', 'e']
  | .int n => renderInt n
  | .float x => renderFloat x
  | .string s => renderString s
  | .array [] => ['[', ']']
  | .array (v :: r) => '[' :: v.render ++ renderItems r ++ [']']
  | .object [] => ['\x7b', '\x7d']
  | .object ((k, v) :: r) =>
    '\x7b' :: renderString k ++ ':' :: v.render ++ renderMembers r ++ ['\x7d']

/-- The items after the first, each behind a comma. -/
def renderItems : List Value → List Char
  | [] => []
  | v :: r => ',' :: v.render ++ renderItems r

/-- The members after the first, each behind a comma. -/
def renderMembers : List (String × Value) → List Char
  | [] => []
  | (k, v) :: r => ',' :: renderString k ++ ':' :: v.render ++ renderMembers r

end

/-- The text of a value. -/
def text (v : Value) : String := String.ofList v.render

end Value
end AlarmKeypad.Json
