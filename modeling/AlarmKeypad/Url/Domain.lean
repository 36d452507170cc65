import AlarmKeypad.Url.Domain.Validity
import AlarmKeypad.Url.Punycode
/-!
Domain names in ASCII. A label with other characters is written in Punycode behind `xn--`.
-/

namespace AlarmKeypad.Url.Domain

/-- The ASCII characters that no domain holds. -/
def isForbidden (c : Char) : Bool :=
  c.toNat ≤ 0x20 || c.toNat == 0x7F ||
    ['#', '/', ':', '<', '>', '?', '@', '[', '\\', ']', '^', '|', '%'].contains c

/-- A label as it is read: one in Punycode is decoded, and then has characters beyond ASCII. -/
def readLabel? (label : List Char) : Option (List Char) :=
  match label with
  | 'x' :: 'n' :: '-' :: '-' :: r =>
    (Punycode.decode? r).filter fun text => !text.all Punycode.isBasic && isLabel text
  | _ => if label.all Punycode.isBasic || isLabel label then some label else none

def labelToAscii (label : List Char) : List Char :=
  if label.all Punycode.isBasic then label else ['x', 'n', '-', '-'] ++ Punycode.encode label

/-- The labels of a name, read. -/
def labels? (cs : List Char) : Option (List (List Char)) := do
  let mapped ← cs.mapM mapChar?
  (Text.splitAll '.' (normalize mapped.flatten)).mapM readLabel?

def toAscii? (cs : List Char) : Option (List Char) := do
  let labels ← labels? cs
  let name := ((labels.map labelToAscii).intersperse ['.']).flatten
  if !directionsFit labels ∨ name.any isForbidden then none else some name

end AlarmKeypad.Url.Domain
