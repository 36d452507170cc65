import AlarmKeypad.Bindings
/-!
Values of TOML texts, and values laid over one another.
-/

namespace AlarmKeypad.Toml

inductive Value where
  | string (s : String)
  | integer (n : Int)
  /-- A floating-point number, as it is written. -/
  | float (text : String)
  | bool (b : Bool)
  | array (items : List Value)
  | table (members : List (String × Value))

namespace Value

/-- A date or a time of day: a table of its own with the text as the only member. -/
def date (text : String) : Value := .table [("date", .string text)]

def string? : Value → Option String
  | .string s => some s
  | _ => none

/-- The integer, if it lies between 0 and `max`. -/
def natural? (max : Nat) : Value → Option Nat
  | .integer n => if 0 ≤ n ∧ n ≤ max then some n.toNat else none
  | _ => none

mutual

/-- The first value laid over the second: tables are joined member by member, and everything else
hides what is below it. -/
def overlay : Value → Value → Value
  | .table ms, .table below => .table (membersOver ms below)
  | v, _ => v

def membersOver : List (String × Value) → List (String × Value) → List (String × Value)
  | [], below => below
  | (k, v) :: r, below =>
    let v := match below.lookup k with
      | none => v
      | some w => v.overlay w
    membersOver r (Bindings.insert k v below)

end

end Value
end AlarmKeypad.Toml
