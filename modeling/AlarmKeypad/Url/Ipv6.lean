import AlarmKeypad.Url.Ipv4
/-!
Addresses of eight 16-bit pieces. Two colons stand for one or more pieces of zero; the last two
pieces may be written as four decimal bytes.
-/

namespace AlarmKeypad.Url.Ipv6

/-- One to four hexadecimal digits. -/
def piece? (cs : List Char) : Option Nat :=
  if cs.length = 0 ∨ 4 < cs.length then none
  else (cs.mapM Text.hexDigit?).map fun ds => ds.foldl (fun n d => n * 16 + d) 0

/-- The pieces between single colons; four decimal bytes at the end make two. -/
def pieces? (groups : List (List Char)) : Option (List Nat) :=
  match groups with
  | [] => some []
  | [g] => match Ipv4.strict? g with
    | some a => some [a.toNat / 65536, a.toNat % 65536]
    | none => (piece? g).map fun p => [p]
  | g :: r => do
    let p ← piece? g
    let ps ← pieces? r
    return p :: ps

/-- The pieces of a side of the double colon. -/
def side? (cs : List Char) : Option (List Nat) :=
  if cs = [] then some [] else pieces? (Text.splitAll ':' cs)

/-- What stands before and after the first double colon. -/
def splitGap : List Char → Option (List Char × List Char)
  | ':' :: ':' :: r => some ([], r)
  | c :: r => (splitGap r).map fun (a, b) => (c :: a, b)
  | [] => none

/-- The eight pieces of an address. -/
def parse? (cs : List Char) : Option (List Nat) :=
  match splitGap cs with
  | none => (side? cs).filter (·.length = 8)
  | some (a, b) => do
    if a.contains '.' then none
    let before ← side? a
    let after ← side? b
    let zeros := 8 - (before.length + after.length)
    if zeros = 0 then none
    return before ++ List.replicate zeros 0 ++ after

/-- The length of the run of zeros at the front. -/
def zerosAhead (ps : List Nat) : Nat := (ps.takeWhile (· == 0)).length

/-- The start and length of the longest run of zeros, the first of several, from position `i`. -/
def longestZeros (i : Nat) : List Nat → Nat × Nat
  | [] => (i, 0)
  | p :: r =>
    let here := zerosAhead (p :: r)
    let (j, n) := longestZeros (i + 1) r
    if n ≤ here then (i, here) else (j, n)

def pieceText (p : Nat) : List Char := Nat.toDigits 16 p

def joinPieces (ps : List Nat) : List Char :=
  (ps.map pieceText).intersperse [':'] |>.flatten

/-- The pieces in lower case, the longest run of two or more zeros written as a double colon. -/
def text (ps : List Nat) : List Char :=
  let (i, n) := longestZeros 0 ps
  if 2 ≤ n then joinPieces (ps.take i) ++ ':' :: ':' :: joinPieces (ps.drop (i + n))
  else joinPieces ps

end AlarmKeypad.Url.Ipv6
