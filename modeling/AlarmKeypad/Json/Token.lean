import AlarmKeypad.Json.Number
/-!
The tokens of JSON texts.

`scan` cuts a text into tokens and leaves out the blanks between them: space, tab, line feed and
carriage return. A string is first cut into characters and escapes; `joinUnits` then puts pairs of
surrogates together.
-/

namespace AlarmKeypad.Json

inductive Token where
  | beginObject
  | endObject
  | beginArray
  | endArray
  | comma
  | colon
  | null
  | bool (b : Bool)
  | int (n : Int)
  | float (x : Binary64)
  | string (s : String)
deriving DecidableEq

namespace Token

/-- A character of a string, or a 16-bit unit written with four hexadecimal digits. -/
inductive StringUnit where
  | char (c : Char)
  | word (n : Nat)

def isHigh (n : Nat) : Bool := 0xD800 ≤ n && n < 0xDC00

def isLow (n : Nat) : Bool := 0xDC00 ≤ n && n < 0xE000

/-- The text of the units; a surrogate without its partner has none. -/
def joinUnits : List StringUnit → Option (List Char)
  | [] => some []
  | .char c :: r => (joinUnits r).map (c :: ·)
  | .word hi :: .word lo :: r =>
    if isHigh hi then
      if isLow lo then
        (joinUnits r).map (Char.ofNat (0x10000 + (hi - 0xD800) * 0x400 + (lo - 0xDC00)) :: ·)
      else none
    else if isLow hi then none
    else (joinUnits (.word lo :: r)).map (Char.ofNat hi :: ·)
  | .word n :: r =>
    if isHigh n || isLow n then none else (joinUnits r).map (Char.ofNat n :: ·)

/-- The character that a backslash and `c` stand for. -/
def escape? (c : Char) : Option Char :=
  if c = '"' then some '"'
  else if c = '\\' then some '\\'
  else if c = '/' then some '/'
  else if c = 'b' then some '\x08'
  else if c = 'f' then some '\x0c'
  else if c = 'n' then some '\n'
  else if c = 'r' then some '\r'
  else if c = 't' then some '\t'
  else none

def word? (a b c d : Char) : Option Nat := do
  return (((← Text.hexDigit? a) * 16 + (← Text.hexDigit? b)) * 16 + (← Text.hexDigit? c)) * 16 +
    (← Text.hexDigit? d)

/-- The units up to the closing quote, and the text after it. -/
def units? : List Char → Option (List StringUnit × List Char)
  | [] => none
  | '"' :: r => some ([], r)
  | '\\' :: 'u' :: a :: b :: c :: d :: r => do
    let n ← word? a b c d
    let (us, rest) ← units? r
    return (.word n :: us, rest)
  | '\\' :: c :: r => do
    let x ← escape? c
    let (us, rest) ← units? r
    return (.char x :: us, rest)
  | c :: r => do
    if c.toNat < 0x20 ∨ c = '\\' then none
    let (us, rest) ← units? r
    return (.char c :: us, rest)

/-- The string whose opening quote has been read, and the text after it. -/
def string? (cs : List Char) : Option (Token × List Char) := do
  let (us, rest) ← units? cs
  return (.string (String.ofList (← joinUnits us)), rest)

def number? (cs : List Char) : Option (Token × List Char) := do
  let (p, rest) ← Number.parts? cs
  match ← Number.value? p with
  | .int n => return (.int n, rest)
  | .float x => return (.float x, rest)
  | _ => none

def isSpace (c : Char) : Bool := c == ' ' || c == '\t' || c == '\n' || c == '\r'

/-- The token at the front of a text, which does not start with a blank, and the rest. -/
def next? : List Char → Option (Token × List Char)
  | '\x7b' :: r => some (.beginObject, r)
  | '\x7d' :: r => some (.endObject, r)
  | '[' :: r => some (.beginArray, r)
  | ']' :: r => some (.endArray, r)
  | ',' :: r => some (.comma, r)
  | ':' :: r => some (.colon, r)
  | 'n' :: 'u' :: 'l' :: 'l' :: r => some (.null, r)
  | 't' :: 'r' :: 'u' :: 'e' :: r => some (.bool true, r)
  | 'f' :: 'a' :: 'l' :: 's' :: 'e' :: r => some (.bool false, r)
  | '"' :: r => string? r
  | cs => number? cs

/-- The tokens of a text. No token is longer than the text, so its length bounds their number. -/
def scanWithin (fuel : Nat) (cs : List Char) : Option (List Token) :=
  match cs.dropWhile isSpace, fuel with
  | [], _ => some []
  | _, 0 => none
  | r, fuel + 1 => do
    let (t, rest) ← next? r
    return t :: (← scanWithin fuel rest)

def scan (cs : List Char) : Option (List Token) := scanWithin cs.length cs

end Token
end AlarmKeypad.Json
