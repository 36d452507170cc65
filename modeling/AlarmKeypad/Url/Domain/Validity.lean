import AlarmKeypad.Url.Domain.Composition
import AlarmKeypad.Url.Domain.Mapping
/-!
Which labels a domain name may have: composed of plain characters, no mark in front, joiners only
where a script needs them, and characters that run from right to left only among their own.
-/

namespace AlarmKeypad.Url.Domain

open Text

def marks : List CodeRange := CodeRange.readAll markRows

def isMark (c : Char) : Bool := marks.any (·.contains c)

/-! ### Joiners -/

/-- How a letter of a cursive script joins its neighbours. -/
inductive Joining where
  /-- Both of them. -/
  | dual
  /-- Only the one to its left. -/
  | left
  | right
  /-- It is passed over. -/
  | transparent
deriving DecidableEq

namespace Joining

def ofLetters : List Char → Joining
  | ['D'] => dual
  | ['L'] => left
  | ['R'] => right
  | _ => transparent

def table : List (CodeRange × Joining) :=
  (CodeRange.readValues joiningRows).map fun e => (e.1, ofLetters e.2)

def of? (c : Char) : Option Joining := valueOf? table c

/-- Whether the first letter behind those passed over is one of `js`. -/
def leadsTo (js : List Joining) (cs : List Char) : Bool :=
  match cs.dropWhile fun c => of? c = some transparent with
  | [] => false
  | c :: _ => (of? c).any fun j => js.contains j

end Joining

def nonJoiner : Char := '\u200C'

def joiner : Char := '\u200D'

/-- The class of the marks that silence a vowel. -/
def viramaClass : Nat := 9

/-- Whether joiners stand in their places; `before` is what precedes, the last first. -/
def joinersFit (before : List Char) : List Char → Bool
  | [] => true
  | c :: r =>
    let afterVirama := before.head?.any fun b => combiningClass b = viramaClass
    let fits :=
      if c = joiner then afterVirama
      else if c = nonJoiner then
        afterVirama ||
          (Joining.leadsTo [.left, .dual] before && Joining.leadsTo [.right, .dual] r)
      else true
    fits && joinersFit (c :: before) r

/-! ### Directions -/

inductive Direction where
  | leftToRight
  | rightToLeft
  | arabicLetter
  | arabicNumber
  | europeanNumber
  | europeanSeparator
  | europeanTerminator
  | commonSeparator
  | otherNeutral
  | boundaryNeutral
  | nonspacingMark
  /-- Ends of paragraphs and the like. -/
  | none
deriving DecidableEq

namespace Direction

def ofLetters : List Char → Direction
  | ['R'] => rightToLeft
  | ['A'] => arabicLetter
  | ['N'] => arabicNumber
  | ['E'] => europeanNumber
  | ['S'] => europeanSeparator
  | ['T'] => europeanTerminator
  | ['C'] => commonSeparator
  | ['O'] => otherNeutral
  | ['B'] => boundaryNeutral
  | ['M'] => nonspacingMark
  | _ => none

def table : List (CodeRange × Direction) :=
  (CodeRange.readValues directionRows).map fun e => (e.1, ofLetters e.2)

def ofAscii (c : Char) : Direction :=
  if c.isAlpha then leftToRight
  else if c.isDigit then europeanNumber
  else if ['+', '-'].contains c then europeanSeparator
  else if ['#', '$', '%'].contains c then europeanTerminator
  else if [',', '.', '/', ':'].contains c then commonSeparator
  else if 0x21 ≤ c.toNat ∧ c.toNat ≤ 0x7E then otherNeutral
  else none

def of (c : Char) : Direction :=
  if c.toNat < 0x80 then ofAscii c else (valueOf? table c).getD leftToRight

/-- Directions that make a whole name one that runs both ways. -/
def turns (d : Direction) : Bool := [rightToLeft, arabicLetter, arabicNumber].contains d

/-- Directions that labels of either kind may have. -/
def shared : List Direction :=
  [europeanNumber, europeanSeparator, commonSeparator, europeanTerminator, otherNeutral,
    boundaryNeutral, nonspacingMark]

/-- Whether the last direction before marks is one of `ds`. -/
def endsIn (ds : List Direction) (all : List Direction) : Bool :=
  match all.reverse.dropWhile (· = nonspacingMark) with
  | [] => false
  | d :: _ => ds.contains d

/-- Whether a label with these directions is of one kind. -/
def isConsistent (ds : List Direction) : Bool :=
  match ds with
  | [] => true
  | leftToRight :: _ =>
    ds.all (fun d => d = leftToRight ∨ shared.contains d) &&
      endsIn [leftToRight, europeanNumber] ds
  | rightToLeft :: _ | arabicLetter :: _ =>
    ds.all (fun d => d.turns ∨ shared.contains d) &&
      endsIn [rightToLeft, arabicLetter, europeanNumber, arabicNumber] ds &&
      !(ds.contains europeanNumber && ds.contains arabicNumber)
  | _ => false

end Direction

/-- Whether labels fit together: where one turns, all are of one kind each. -/
def directionsFit (labels : List (List Char)) : Bool :=
  let ds := labels.map (·.map Direction.of)
  !(ds.any (·.any Direction.turns)) || ds.all Direction.isConsistent

/-- Whether a label that is not all ASCII may be in a domain name. -/
def isLabel (cs : List Char) : Bool :=
  cs.all isPlain && normalize cs == cs && !(cs.head?.any isMark) && joinersFit [] cs

end AlarmKeypad.Url.Domain
