import AlarmKeypad.Text.Blank
import AlarmKeypad.Text.Numeral
/-!
Quoted texts of TOML: with escapes or literal, on one line or on several.

A quoted text is read in two steps. The first finds the closing quotes and cuts off the raw text
before them; the second replaces the escapes. `quote` chooses the plainest form that can hold a
text.
-/

namespace AlarmKeypad.Toml

/-- The characters that may stand for themselves: all but the controls; a tab is none. -/
def isPlain (c : Char) : Bool := c == '\t' || (0x20 ≤ c.toNat && c.toNat != 0x7F)

def isSpace (c : Char) : Bool := c == ' ' || c == '\t'

/-- The text after a line end at its front, if there is one. -/
def dropLineEnd : List Char → List Char
  | '\n' :: r => r
  | '\r' :: '\n' :: r => r
  | r => r

namespace Quoted

/-! ### Reading -/

/-- The character that a backslash and `c` stand for. -/
def escape? (c : Char) : Option Char :=
  if c = 'b' then some '\x08'
  else if c = 't' then some '\t'
  else if c = 'n' then some '\n'
  else if c = 'f' then some '\x0c'
  else if c = 'r' then some '\r'
  else if c = '"' then some '"'
  else if c = '\\' then some '\\'
  else none

/-- The character whose code point the hexadecimal digits spell. -/
def scalar? (digits : List Char) : Option Char := do
  let n ← digits.foldlM (fun n c => (Text.hexDigit? c).map (n * 16 + ·)) 0
  if n.isValidChar then some (Char.ofNat n) else none

/-- Whether only blanks stand before the end of the line. -/
def endsLine (cs : List Char) : Bool :=
  match cs.dropWhile isSpace with
  | '\n' :: _ => true
  | '\r' :: '\n' :: _ => true
  | _ => false

/-- The text that raw text stands for. On several lines a backslash at the end of a line joins it to
the next text; `joining` says that blanks and line ends are left out for that reason. -/
def unescape? (lines joining : Bool) : List Char → Option (List Char)
  | [] => some []
  | '\\' :: 'u' :: a :: b :: c :: d :: r => do
    let x ← scalar? [a, b, c, d]
    return x :: (← unescape? lines false r)
  | '\\' :: 'U' :: a :: b :: c :: d :: e :: f :: g :: h :: r => do
    let x ← scalar? [a, b, c, d, e, f, g, h]
    return x :: (← unescape? lines false r)
  | '\\' :: c :: r =>
    match escape? c with
    | some x => (unescape? lines false r).map (x :: ·)
    | none => if lines && endsLine (c :: r) then unescape? lines true r else none
  | c :: r =>
    let lineEnd := c == '\n' || (c == '\r' && r.head? == some '\n')
    if joining && (isSpace c || lineEnd) then unescape? lines true r
    else if isPlain c && c != '\\' || lines && c == '\n' then
      (unescape? lines false r).map (c :: ·)
    else if lines && lineEnd then unescape? lines false r
    else none

/-- Literal text, which has no escapes; each line end becomes a line feed. -/
def literal? (lines : Bool) : List Char → Option (List Char)
  | [] => some []
  | '\r' :: '\n' :: r => if lines then (literal? lines r).map ('\n' :: ·) else none
  | c :: r => if isPlain c || lines && c == '\n' then (literal? lines r).map (c :: ·) else none

/-- The raw text before a closing quote, and the text after it. -/
def basicRaw? : List Char → Option (List Char × List Char)
  | [] => none
  | '"' :: r => some ([], r)
  | '\\' :: c :: r => (basicRaw? r).map fun (raw, rest) => ('\\' :: c :: raw, rest)
  | c :: r => (basicRaw? r).map fun (raw, rest) => (c :: raw, rest)

/-- Three closing quotes, with at most two more before them that belong to the text. -/
def closing? (q : Char) (cs : List Char) : Option (List Char × List Char) :=
  let n := min 5 (cs.takeWhile (· == q)).length
  if 3 ≤ n then some (List.replicate (n - 3) q, cs.drop n) else none

def basicLinesRaw? : List Char → Option (List Char × List Char)
  | [] => none
  | '\\' :: c :: r => (basicLinesRaw? r).map fun (raw, rest) => ('\\' :: c :: raw, rest)
  | c :: r =>
    match closing? '"' (c :: r) with
    | some end? => some end?
    | none => (basicLinesRaw? r).map fun (raw, rest) => (c :: raw, rest)

def literalLinesRaw? : List Char → Option (List Char × List Char)
  | [] => none
  | c :: r =>
    match closing? '\'' (c :: r) with
    | some end? => some end?
    | none => (literalLinesRaw? r).map fun (raw, rest) => (c :: raw, rest)

/-- The quoted text on one line at the front, and the text after it. -/
def line? : List Char → Option (String × List Char)
  | '"' :: r => do
    let (raw, rest) ← basicRaw? r
    return (String.ofList (← unescape? false false raw), rest)
  | '\'' :: r => do
    let (raw, rest) ← Text.splitOnce '\'' r
    return (String.ofList (← literal? false raw), rest)
  | _ => none

/-- The quoted text at the front, on one line or on several, and the text after it. -/
def read? : List Char → Option (String × List Char)
  | '"' :: '"' :: '"' :: r => do
    let (raw, rest) ← basicLinesRaw? (dropLineEnd r)
    return (String.ofList (← unescape? true false raw), rest)
  | '\'' :: '\'' :: '\'' :: r => do
    let (raw, rest) ← literalLinesRaw? (dropLineEnd r)
    return (String.ofList (← literal? true raw), rest)
  | cs => line? cs

/-! ### Writing -/

/-- The length of the longest run of `q`, where the last `run` characters were `q`. -/
def longestRun (q : Char) (run : Nat) : List Char → Nat
  | [] => run
  | c :: r => if c = q then longestRun q (run + 1) r else max run (longestRun q 0 r)

/-- The control characters, which must be escaped. -/
def isControl (c : Char) : Bool := c.toNat < 0x20 && c != '\t' || c.toNat == 0x7F

def hexChar (n : Nat) : Char := Char.ofNat (if n < 10 then 48 + n else 55 + n)

/-- A character of text with escapes, where no quote is. -/
def escapeChar (lines : Bool) (c : Char) : List Char :=
  if c = '\x08' then ['\\', 'b']
  else if c = '\t' then ['\\', 't']
  else if c = '\n' then if lines then ['\n'] else ['\\', 'n']
  else if c = '\x0c' then ['\\', 'f']
  else if c = '\r' then ['\\', 'r']
  else if c = '\\' then ['\\', '\\']
  else if isControl c then ['\\', 'u', '0', '0', hexChar (c.toNat / 16), hexChar (c.toNat % 16)]
  else [c]

/-- Text with escapes. On one line every quote is escaped; on several lines two quotes may stand
together and a third is escaped. -/
def escapeText (lines : Bool) (run : Nat) : List Char → List Char
  | [] => []
  | c :: r =>
    if c = '"' then
      if lines && run < 2 then c :: escapeText lines (run + 1) r
      else '\\' :: c :: escapeText lines 0 r
    else escapeChar lines c ++ escapeText lines 0 r

inductive Style where
  | basic
  | literal
  | basicLines
  | literalLines
deriving DecidableEq

/-- The first form that holds the text without an escape; one with escapes if there is none. -/
def Style.ofText (cs : List Char) : Style :=
  let lines := cs.contains '\n'
  let control := cs.any fun c => isControl c && c != '\n'
  let backslash := cs.contains '\\'
  if !control && !backslash && longestRun '"' 0 cs == 0 && !lines then .basic
  else if !control && longestRun '\'' 0 cs == 0 && !lines then .literal
  else if !control && !backslash && longestRun '"' 0 cs ≤ 2 then .basicLines
  else if !control && longestRun '\'' 0 cs ≤ 2 then .literalLines
  else if lines then .basicLines
  else .basic

/-- The text in a style. The lines of a text with several begin on a line of their own. -/
def Style.write (style : Style) (cs : List Char) : List Char :=
  let start := if cs.contains '\n' then ['\n'] else []
  match style with
  | .basic => '"' :: escapeText false 0 cs ++ ['"']
  | .literal => '\'' :: cs ++ ['\'']
  | .basicLines => '"' :: '"' :: '"' :: start ++ escapeText true 0 cs ++ ['"', '"', '"']
  | .literalLines => '\'' :: '\'' :: '\'' :: start ++ cs ++ ['\'', '\'', '\'']

def quote (s : String) : List Char := (Style.ofText s.toList).write s.toList

end Quoted
end AlarmKeypad.Toml
