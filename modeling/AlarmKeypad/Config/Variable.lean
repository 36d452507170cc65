import AlarmKeypad.Toml.Quoted
import AlarmKeypad.Toml.Value
/-!
Settings from environment variables.

The name of a variable is a path: after the mark `AD2KP_` its parts stand between double
underscores, in letters of either case. Its text is a value: a number, a truth value, a quoted text,
an array in brackets or a table in braces; any other text stands for itself.
-/

namespace AlarmKeypad.Variable

open Toml (Value)

/-- Variables by their names. -/
abbrev Environment := List (String × String)

/-! ### Values -/

def isSpace (c : Char) : Bool := c == ' ' || c == '\t' || c == '\n'

/-- The characters that end a bare word inside an array or a table. -/
def isSeparator (c : Char) : Bool := c ∈ [',', '[', ']', '\x7b', '\x7d']

/-- The text after a sign, and whether the sign is a minus. -/
def splitSign : List Char → Bool × List Char
  | '-' :: r => (true, r)
  | '+' :: r => (false, r)
  | r => (false, r)

/-- A decimal integer of at most 128 bits. -/
def integer? (cs : List Char) : Option Int :=
  let (negative, digits) := splitSign cs
  (Text.natural? digits).bind fun n =>
    if negative then if n ≤ UInt64.size * UInt64.size / 2 then some (-n) else none
    else if n < UInt64.size * UInt64.size then some n else none

/-- Whether the text is an exponent, or nothing. -/
def isExponent : List Char → Bool
  | [] => true
  | c :: r => (c == 'e' || c == 'E') && (Text.natural? (splitSign r).2).isSome

/-- Whether the text is a decimal number with a point. -/
def isFloat (cs : List Char) : Bool :=
  match (splitSign cs).2.span Char.isDigit with
  | (whole, '.' :: r) =>
    let (fraction, r) := r.span Char.isDigit
    (!whole.isEmpty || !fraction.isEmpty) && isExponent r
  | _ => false

/-- A word without quotes. -/
def word (cs : List Char) : Value :=
  if isFloat cs then .float (String.ofList cs)
  else match integer? cs with
    | some n => .integer n
    | none => .string (String.ofList cs)

/-- The text in double quotes whose opening quote has been read, and the text after it. -/
def quoted? (cs : List Char) : Option (String × List Char) := do
  let (raw, rest) ← Toml.Quoted.basicRaw? cs
  return (String.ofList (← Toml.Quoted.unescape? false false raw), rest)

/-- The items of an array after its bracket; there are no more than `n`. -/
def items? (value? : List Char → Option (Value × List Char)) :
    Nat → List Char → Option (List Value × List Char)
  | 0, _ => none
  | _ + 1, ']' :: rest => some ([], rest)
  | n + 1, cs => do
    let (v, r) ← value? cs
    match r with
    | ',' :: r =>
      let (vs, rest) ← items? value? n r
      return (v :: vs, rest)
    | ']' :: rest => return ([v], rest)
    | _ => none

def isKeyChar (c : Char) : Bool := c.isAlphanum || c == '_' || c == '-'

def key? : List Char → Option (String × List Char)
  | '"' :: r => quoted? r
  | cs => match cs.span isKeyChar with
    | ([], _) => none
    | (k, rest) => some (String.ofList k, rest)

/-- A key and its value, with blanks around each. -/
def member? (value? : List Char → Option (Value × List Char)) (cs : List Char) :
    Option ((String × Value) × List Char) := do
  let (k, r) ← key? (cs.dropWhile isSpace)
  match r.dropWhile isSpace with
  | '=' :: r =>
    let (v, rest) ← value? r
    return ((k, v), rest)
  | _ => none

/-- The members of a table after its brace; there are no more than `n`. -/
def members? (value? : List Char → Option (Value × List Char)) :
    Nat → List Char → Option (List (String × Value) × List Char)
  | 0, _ => none
  | _ + 1, '\x7d' :: rest => some ([], rest)
  | n + 1, cs => do
    let (m, r) ← member? value? cs
    match r with
    | ',' :: r =>
      let (ms, rest) ← members? value? n r
      return (m :: ms, rest)
    | '\x7d' :: rest => return ([m], rest)
    | _ => none

/-- A value that does not begin with a blank, with at most `n` arrays and tables inside one another,
and the text after it. -/
def bare? (value? : List Char → Option (Value × List Char)) (cs : List Char) :
    Option (Value × List Char) :=
  match cs with
  | 't' :: 'r' :: 'u' :: 'e' :: r => some (.bool true, r)
  | 'f' :: 'a' :: 'l' :: 's' :: 'e' :: r => some (.bool false, r)
  | '[' :: r => (items? value? (r.length + 1) r).map fun (vs, rest) => (.array vs, rest)
  | '\x7b' :: r =>
    (members? value? (r.length + 1) r).map fun (ms, rest) => (.table (Bindings.sort ms), rest)
  | '"' :: r => (quoted? r).map fun (s, rest) => (.string s, rest)
  | '\'' :: c :: '\'' :: r => some (.string (String.singleton c), r)
  | '\'' :: _ => none
  | r =>
    let (w, rest) := r.span fun c => !isSeparator c
    some (word (Text.trim w), rest)

/-- A value with blanks around it. -/
def value? : Nat → List Char → Option (Value × List Char)
  | 0, _ => none
  | n + 1, cs => do
    let (v, rest) ← bare? (value? n) (cs.dropWhile isSpace)
    return (v, rest.dropWhile isSpace)

/-- The value of a variable. -/
def value (s : String) : Value :=
  match value? (s.toList.length + 1) s.toList with
  | some (v, []) => v
  | _ => .string s

/-! ### Names -/

/-- What every variable that holds a setting begins with. -/
def mark : List Char := ['a', 'd', '2', 'k', 'p', '_']

/-- The text with a point in place of every two underscores. -/
def pointed : List Char → List Char
  | '_' :: '_' :: r => '.' :: pointed r
  | c :: r => c :: pointed r
  | [] => []

/-- The path that a name stands for, in lower case. -/
def path? (name : String) : Option (List String) :=
  let cs := (Text.trim name.toList).map Char.toLower
  if mark.isPrefixOf cs ∧ cs.length ≠ mark.length then
    some ((Text.splitAll '.' (pointed (cs.drop mark.length))).map String.ofList)
  else none

/-- The tables that lead along a path to a value; an empty part ends the path. -/
def nest : List String → Value → Value
  | [], v => v
  | k :: path, v => if k.isEmpty then v else .table [(k, nest path v)]

/-- The settings of all variables; a later variable lies over an earlier one. A variable without a
path must be a table. -/
def settings? (env : Environment) : Option Value :=
  env.foldlM (fun below (name, text) =>
    match path? name with
    | none => some below
    | some path => match nest path (value text) with
      | .table ms => some ((Value.table ms).overlay below)
      | _ => none) (.table [])

end AlarmKeypad.Variable
