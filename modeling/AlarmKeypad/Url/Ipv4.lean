import AlarmKeypad.Text.Blank
import AlarmKeypad.Text.Numeral
import AlarmKeypad.Url.Fault
/-!
Addresses of four bytes.

In a URL an address may be shorter, its last number filling the bytes left, and each number decimal,
octal or hexadecimal.
-/

namespace AlarmKeypad.Url.Ipv4

/-- What a part of an address spells; a number may be too large. -/
inductive Part where
  | number (n : Nat)
  | tooLarge
  | invalid
deriving DecidableEq

def octalDigit? (c : Char) : Option Nat :=
  if '0' ≤ c ∧ c ≤ '7' then some (c.toNat - 48) else none

/-- A numeral whose digits `digit?` reads. -/
def ofRadix (radix : Nat) (digit? : Char → Option Nat) (cs : List Char) : Part :=
  match cs.mapM digit? with
  | none => .invalid
  | some ds =>
    let n := ds.foldl (fun n d => n * radix + d) 0
    if n < UInt32.size then .number n else .tooLarge

def part (cs : List Char) : Part :=
  match cs with
  | [] => .invalid
  | '0' :: 'x' :: r | '0' :: 'X' :: r => ofRadix 16 Text.hexDigit? r
  | '0' :: c :: r => ofRadix 8 octalDigit? (c :: r)
  | r => ofRadix 10 Text.digit? r

/-- The parts between points, without an empty one at the end. -/
def parts (cs : List Char) : List (List Char) :=
  let ps := Text.splitAll '.' cs
  if ps.getLast? = some [] then ps.dropLast else ps

/-- Whether a host has to be such an address: its last part is a number. -/
def endsInNumber (cs : List Char) : Bool :=
  match (parts cs).getLast? with
  | none => false
  | some p => (p ≠ [] && p.all Char.isDigit) || part p ≠ .invalid

/-- The address of numbers before the last, each one byte, and the last. -/
def combine? (leading : List Nat) (last : Nat) : Option UInt32 :=
  let room := 4 - leading.length
  if leading.all (· < 256) ∧ last < Nat.pow 256 room ∧ leading.length < 4 then
    some (leading.foldl (fun n b => n * 256 + b) 0 * Nat.pow 256 room + last).toUInt32
  else none

def number? : Part → Option Nat
  | .number n => some n
  | .tooLarge | .invalid => none

def parse (cs : List Char) : Except Fault UInt32 :=
  match (parts cs).mapM fun p => number? (part p) with
  | none => .error .ipv4
  | some ns => match ns.getLast?.bind fun last => combine? ns.dropLast last with
    | none => .error .ipv4
    | some a => .ok a

/-- One byte in decimal, without a zero in front. -/
def byte? (cs : List Char) : Option Nat :=
  match cs with
  | '0' :: _ :: _ => none
  | cs => (Text.natural? cs).filter (· < 256)

/-- An address of exactly four decimal bytes. -/
def strict? (cs : List Char) : Option UInt32 :=
  match (Text.splitAll '.' cs).mapM byte? with
  | some [a, b, c, d] => some (((a * 256 + b) * 256 + c) * 256 + d).toUInt32
  | _ => none

def text (a : UInt32) : List Char :=
  let n := a.toNat
  Text.decimal (n / 16777216) ++ '.' :: Text.decimal (n / 65536 % 256) ++
    '.' :: Text.decimal (n / 256 % 256) ++ '.' :: Text.decimal (n % 256)

end AlarmKeypad.Url.Ipv4
