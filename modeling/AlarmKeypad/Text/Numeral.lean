/-!
Decimal numerals.
-/

namespace AlarmKeypad.Text

/-- The value of an ASCII decimal digit. -/
def digit? (c : Char) : Option Nat := if c.isDigit then some (c.toNat - 48) else none

/-- The number that decimal digits spell, after `acc` in front of them. -/
def ofDigits (acc : Nat) (cs : List Char) : Nat :=
  cs.foldl (fun n c => n * 10 + (c.toNat - 48)) acc

/-- One or more decimal digits, leading zeros allowed. -/
def natural? (cs : List Char) : Option Nat :=
  if cs ≠ [] ∧ cs.all Char.isDigit then some (ofDigits 0 cs) else none

/-- A numeral of value at most `max`, with an optional plus sign in front. -/
def bounded? (max : Nat) (cs : List Char) : Option Nat :=
  let digits := match cs with
    | '+' :: r => r
    | r => r
  (natural? digits).filter (· ≤ max)

/-- `n` in decimal. -/
def decimal (n : Nat) : List Char := Nat.toDigits 10 n

def decimalString (n : Nat) : String := String.ofList (decimal n)

/-- The value of a hexadecimal digit of either case. -/
def hexDigit? (c : Char) : Option Nat :=
  if c.isDigit then some (c.toNat - 48)
  else if 'a' ≤ c ∧ c ≤ 'f' then some (c.toNat - 87)
  else if 'A' ≤ c ∧ c ≤ 'F' then some (c.toNat - 55)
  else none

end AlarmKeypad.Text
