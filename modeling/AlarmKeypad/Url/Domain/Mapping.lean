import AlarmKeypad.Text.CodePoint
import AlarmKeypad.Url.Domain.Table
/-!
What the characters of domain names stand for: capitals for small letters, and compatible forms for
what they are forms of.
-/

namespace AlarmKeypad.Url.Domain

open Text

/-- Characters that stand for others at a fixed distance. -/
structure Shift where
  range : CodeRange
  step : Nat
  target : Nat
deriving DecidableEq

namespace Shift

def read (cs : List Char) : Shift :=
  let (source, target) := (splitOnce '>' cs).getD (cs, [])
  if source.contains '/' then ⟨.read '/' source, 2, ofHex target⟩
  else ⟨.read '-' source, 1, ofHex target⟩

def move? (s : Shift) (c : Char) : Option Char :=
  if s.range.contains c ∧ (c.toNat - s.range.first) % s.step = 0 then
    some (Char.ofNat (s.target + (c.toNat - s.range.first)))
  else none

end Shift

def ignored : List CodeRange := CodeRange.readAll ignoredRows

def forbidden : List CodeRange := CodeRange.readAll forbiddenRows

def shifts : List Shift := (entries shiftRows).map Shift.read

/-- Characters and the texts that they stand for. -/
def expansions : List (Char × List Char) :=
  (entries expansionRows).map fun e =>
    let (source, target) := (splitOnce '>' e).getD (e, [])
    (Char.ofNat (ofHex source), readChars target)

/-- What a character stands for; none if no domain holds it. -/
def mapChar? (c : Char) : Option (List Char) :=
  if c.toNat < 0x80 then some [c.toLower]
  else if forbidden.any (·.contains c) then none
  else if ignored.any (·.contains c) then some []
  else match shifts.findSome? (·.move? c) with
    | some d => some [d]
    | none => some ((expansions.lookup c).getD [c])

/-- Whether a character stands for itself. -/
def isPlain (c : Char) : Bool := mapChar? c == some [c]

end AlarmKeypad.Url.Domain
