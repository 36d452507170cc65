import AlarmKeypad.Text.CodePoint
import AlarmKeypad.Url.Domain.Table
/-!
The composed form of a text: marks in their order, and each character with the marks behind it as
one character where there is one.
-/

namespace AlarmKeypad.Url.Domain

open Text

/-- Characters that are composed of two. -/
def composites : List (Char × Char × Char) :=
  (entries compositeRows).filterMap fun e =>
    let (whole, parts) := (splitOnce '=' e).getD (e, [])
    match readChars parts with
    | [a, b] => some (Char.ofNat (ofHex whole), a, b)
    | _ => none

def classes : List (CodeRange × Nat) :=
  (CodeRange.readValues classRows).map fun e => (e.1, ofDigits 0 e.2)

/-- The class of a mark; marks of different classes move past one another. Other characters have
class zero. -/
def combiningClass (c : Char) : Nat := (valueOf? classes c).getD 0

/-! ### Syllables of Korean, composed by arithmetic -/

def syllableBase : Nat := 0xAC00
def leadBase : Nat := 0x1100
def vowelBase : Nat := 0x1161
def tailBase : Nat := 0x11A7
def leadCount : Nat := 19
def vowelCount : Nat := 21
/-- The tails, and none. -/
def tailCount : Nat := 28

def isSyllable (n : Nat) : Bool :=
  syllableBase ≤ n && n < syllableBase + leadCount * vowelCount * tailCount

def decomposeSyllable (n : Nat) : List Char :=
  let i := n - syllableBase
  let tail := i % tailCount
  [Char.ofNat (leadBase + i / tailCount / vowelCount),
    Char.ofNat (vowelBase + i / tailCount % vowelCount)] ++
    if tail = 0 then [] else [Char.ofNat (tailBase + tail)]

def composeSyllable? (a b : Nat) : Option Char :=
  if leadBase ≤ a ∧ a < leadBase + leadCount ∧ vowelBase ≤ b ∧ b < vowelBase + vowelCount then
    some (Char.ofNat (syllableBase + ((a - leadBase) * vowelCount + (b - vowelBase)) * tailCount))
  else if isSyllable a ∧ (a - syllableBase) % tailCount = 0 ∧ tailBase < b ∧
      b < tailBase + tailCount then
    some (Char.ofNat (a + (b - tailBase)))
  else none

/-! ### Composition -/

/-- The parts of a character, taken apart at most `fuel` times. -/
def decompose : Nat → Char → List Char
  | 0, c => [c]
  | fuel + 1, c =>
    if isSyllable c.toNat then decomposeSyllable c.toNat
    else match composites.find? (·.1 = c) with
      | some (_, a, b) => decompose fuel a ++ [b]
      | none => [c]

/-- How deep characters are composed. -/
def depth : Nat := 4

/-- Puts a mark behind the marks of lower classes in front. -/
def place (c : Char) : List Char → List Char
  | [] => [c]
  | d :: r =>
    if 0 < combiningClass d ∧ combiningClass d < combiningClass c then d :: place c r
    else c :: d :: r

/-- Brings every run of marks into the order of their classes. -/
def order (cs : List Char) : List Char :=
  cs.foldr (fun c r => if combiningClass c = 0 then c :: r else place c r) []

def compose? (a b : Char) : Option Char :=
  match composeSyllable? a.toNat b.toNat with
  | some c => some c
  | none => (composites.find? fun e => e.2 = (a, b)).map Prod.fst

/-- A character that marks may join, and the marks behind it that have not joined, the last
first. -/
structure Cluster where
  head : Char
  marks : List Char

/-- Joins a mark if none of its class stands between; otherwise it waits or begins a new cluster. -/
def Cluster.join (k : Cluster) (c : Char) : Cluster × List Char :=
  let free := match k.marks with
    | [] => true
    | m :: _ => combiningClass m < combiningClass c
  match if free then compose? k.head c else none with
  | some h => ({ k with head := h }, [])
  | none =>
    if combiningClass c = 0 then (⟨c, []⟩, k.head :: k.marks.reverse)
    else ({ k with marks := c :: k.marks }, [])

/-- Composes what follows a cluster. -/
def composeFrom (k : Cluster) : List Char → List Char
  | [] => k.head :: k.marks.reverse
  | c :: r =>
    let (k, done) := k.join c
    done ++ composeFrom k r

/-- Composes a text in order; marks at its front have nothing to join. -/
def compose : List Char → List Char
  | [] => []
  | c :: r => if combiningClass c = 0 then composeFrom ⟨c, []⟩ r else c :: compose r

/-- The composed form of a text; a text in ASCII has no other. -/
def normalize (cs : List Char) : List Char :=
  if cs.all fun c => c.toNat < 0x80 then cs else compose (order (cs.flatMap (decompose depth)))

end AlarmKeypad.Url.Domain
