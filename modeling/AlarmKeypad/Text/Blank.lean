/-!
The blank characters, and texts without them at their ends.
-/

namespace AlarmKeypad.Text

/-- The characters with the Unicode property White_Space. -/
def isBlank (c : Char) : Bool :=
  let n := c.toNat
  (9 ≤ n && n ≤ 13) || n == 32 || n == 0x85 || n == 0xA0 || n == 0x1680 ||
    (0x2000 ≤ n && n ≤ 0x200A) || n == 0x2028 || n == 0x2029 || n == 0x202F || n == 0x205F ||
    n == 0x3000

/-- `cs` without the characters at its end that satisfy `p`. -/
def dropEndWhile (p : Char → Bool) (cs : List Char) : List Char :=
  (cs.reverse.dropWhile p).reverse

def trimStart (cs : List Char) : List Char := cs.dropWhile isBlank

def trimEnd (cs : List Char) : List Char := dropEndWhile isBlank cs

def trim (cs : List Char) : List Char := trimEnd (trimStart cs)

/-- `s` without blank characters at either end. -/
def trimString (s : String) : String := String.ofList (trim s.toList)

def trimEndString (s : String) : String := String.ofList (trimEnd s.toList)

/-- What stands before and after the first `c`. -/
def splitOnce (c : Char) : List Char → Option (List Char × List Char)
  | [] => none
  | x :: r => if x = c then some ([], r) else (splitOnce c r).map fun (a, b) => (x :: a, b)

/-- The pieces between the occurrences of `c`; one more than those. -/
def splitAll (c : Char) : List Char → List (List Char)
  | [] => [[]]
  | x :: r =>
    if x = c then [] :: splitAll c r
    else match splitAll c r with
      | [] => [[x]]
      | p :: ps => (x :: p) :: ps

end AlarmKeypad.Text
