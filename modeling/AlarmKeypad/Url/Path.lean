import AlarmKeypad.Url.Percent
/-!
Paths of URLs: a list of segments, without segments of one or two dots.
-/

namespace AlarmKeypad.Url.Path

/-- A segment with encoded dots written out. -/
def plainDots : List Char → List Char
  | '%' :: '2' :: 'e' :: r | '%' :: '2' :: 'E' :: r => '.' :: plainDots r
  | c :: r => c :: plainDots r
  | [] => []

def isDot (segment : List Char) : Bool := plainDots segment == ['.']

def isDoubleDot (segment : List Char) : Bool := plainDots segment == ['.', '.']

/-- A letter and a colon or a bar. -/
def isDrive : List Char → Bool
  | [c, d] => c.isAlpha && (d == ':' || d == '|')
  | _ => false

/-- The segments without the last; a drive at the front stays. -/
def shorten (file : Bool) (segments : List (List Char)) : List (List Char) :=
  match file, segments with
  | true, [[c, ':']] => if c.isAlpha then segments else []
  | _, _ => segments.dropLast

/-- The path after one more segment, which a slash follows or not. -/
def add (file : Bool) (segments : List (List Char)) (segment : List Char) (slash : Bool) :
    List (List Char) :=
  if isDoubleDot segment then
    let segments := shorten file segments
    if slash then segments else segments ++ [[]]
  else if isDot segment then if slash then segments else segments ++ [[]]
  else if file && segments.isEmpty && isDrive segment then [segment.take 1 ++ [':']]
  else segments ++ [Percent.encode Percent.path segment]

/-- The path of pieces between slashes. -/
def ofPieces (file : Bool) (segments : List (List Char)) : List (List Char) → List (List Char)
  | [] => segments
  | [p] => add file segments p false
  | p :: r => ofPieces file (add file segments p true) r

/-- The pieces between slashes, and in some schemes between backslashes. -/
def split (special : Bool) : List Char → List (List Char)
  | [] => [[]]
  | c :: r =>
    if c = '/' ∨ (special ∧ c = '\\') then [] :: split special r
    else match split special r with
      | [] => [[c]]
      | p :: ps => (c :: p) :: ps

def text (segments : List (List Char)) : List Char := segments.flatMap fun s => '/' :: s

end AlarmKeypad.Url.Path
