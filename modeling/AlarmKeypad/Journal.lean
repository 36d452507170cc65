import AlarmKeypad.Text.Numeral
/-!
The journal that a program keeps of its own work.
-/

namespace AlarmKeypad

inductive Severity where
  | warning
  | info
  | debug
deriving DecidableEq

namespace Severity

def rank : Severity → Nat
  | warning => 0
  | info => 1
  | debug => 2

/-- The name in five places, in its color. -/
def label : Severity → String
  | warning => "\x1b[33m WARN\x1b[0m"
  | info => "\x1b[32m INFO\x1b[0m"
  | debug => "\x1b[34mDEBUG\x1b[0m"

/-- The name in five places. -/
def plainLabel : Severity → String
  | warning => " WARN"
  | info => " INFO"
  | debug => "DEBUG"

end Severity

namespace Journal

structure Entry where
  severity : Severity
  message : String
  /-- What the message is about, by name. -/
  fields : List (String × String)
deriving DecidableEq

/-- Whether lines have colors, which the variable `NO_COLOR` with any text in it takes away. -/
def isColored (noColor : Option String) : Bool := (noColor.getD "").isEmpty

/-- The last rank that a program writes: a quiet one writes warnings, and each time it was told to
say more raises the rank. -/
def threshold (quiet : Severity) (verbosity : Nat) : Nat := quiet.rank + verbosity

/-- The text in quotes of a value that may hold blanks. -/
def quote (s : String) : String := "\"" ++ s ++ "\""

def number (n : Nat) : String := Text.decimalString n

namespace Entry

def isWritten (e : Entry) (rank : Nat) : Bool := e.severity.rank ≤ rank

def fieldText (color : Bool) (f : String × String) : String :=
  if color then " \x1b[3m" ++ f.1 ++ "\x1b[0m\x1b[2m=\x1b[0m" ++ f.2 else " " ++ f.1 ++ "=" ++ f.2

/-- The line of an entry made at a time. -/
def text (color : Bool) (time : String) (e : Entry) : String :=
  let stamp := if color then "\x1b[2m" ++ time ++ "\x1b[0m" else time
  let label := if color then e.severity.label else e.severity.plainLabel
  stamp ++ " " ++ label ++ " " ++ e.message ++ String.join (e.fields.map (fieldText color)) ++ "\n"

end Entry

/-- The lines of those entries that are written. -/
def text (color : Bool) (rank : Nat) (time : String) (es : List Entry) : String :=
  String.join ((es.filter (·.isWritten rank)).map (·.text color time))

end Journal
end AlarmKeypad
