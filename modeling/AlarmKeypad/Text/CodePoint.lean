import AlarmKeypad.Text.Blank
import AlarmKeypad.Text.Numeral
/-!
Tables of code points, written in rows of entries with blanks between them.
-/

namespace AlarmKeypad.Text

/-- The number that hexadecimal digits spell. -/
def ofHex (cs : List Char) : Nat := cs.foldl (fun n c => n * 16 + (hexDigit? c).getD 0) 0

def entries (rows : List String) : List (List Char) := rows.flatMap fun r => splitAll ' ' r.toList

/-- Characters from the first code point to the last. -/
structure CodeRange where
  first : Nat
  last : Nat
deriving DecidableEq

namespace CodeRange

def contains (r : CodeRange) (c : Char) : Bool := r.first ≤ c.toNat && c.toNat ≤ r.last

/-- A range whose ends stand around `mark`, or a single code point. -/
def read (mark : Char) (cs : List Char) : CodeRange :=
  match splitOnce mark cs with
  | some (a, b) => ⟨ofHex a, ofHex b⟩
  | none => ⟨ofHex cs, ofHex cs⟩

def readAll (rows : List String) : List CodeRange := (entries rows).map (read '-')

/-- Ranges, each with what stands behind the colon. -/
def readValues (rows : List String) : List (CodeRange × List Char) :=
  (entries rows).map fun e =>
    let (range, value) := (splitOnce ':' e).getD (e, [])
    (read '-' range, value)

end CodeRange

/-- The value of the first range that holds a character. -/
def valueOf? {α : Type} (table : List (CodeRange × α)) (c : Char) : Option α :=
  (table.find? fun e => e.1.contains c).map Prod.snd

/-- Characters by their code points, with full stops between them. -/
def readChars (cs : List Char) : List Char := (splitAll '.' cs).map fun h => Char.ofNat (ofHex h)

end AlarmKeypad.Text
