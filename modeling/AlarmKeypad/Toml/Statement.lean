import AlarmKeypad.Toml.Number
import AlarmKeypad.Toml.Quoted
import AlarmKeypad.Toml.Table
/-!
The statements of a TOML text: headers, headers of repeated tables, and assignments. `scan` cuts a
text into them, `Statement.text` writes one.
-/

namespace AlarmKeypad.Toml

inductive Statement where
  | header (path : List String)
  | item (path : List String)
  | assign (path : List String) (v : Value)

/-- The greatest number of arrays and tables inside one another, and of parts of a key. -/
def maxDepth : Nat := 79

/-! ### Keys -/

namespace Key

def isBare (c : Char) : Bool := c.isAlphanum || c == '_' || c == '-'

/-- One part of a key, and the text after it. -/
def part? (cs : List Char) : Option (String × List Char) :=
  match Quoted.line? cs with
  | some r => some r
  | none => match cs.span isBare with
    | ([], _) => none
    | (k, rest) => some (String.ofList k, rest)

/-- A key of at most `n` parts with dots between them and blanks around them. -/
def path? : Nat → List Char → Option (List String × List Char)
  | 0, _ => none
  | n + 1, cs => do
    let (k, r) ← part? (cs.dropWhile isSpace)
    match r.dropWhile isSpace with
    | '.' :: r =>
      let (ks, rest) ← path? n r
      return (k :: ks, rest)
    | rest => return ([k], rest)

/-- A part of a key: bare, with quotes, or literal where that saves an escape. -/
def write (k : String) : List Char :=
  let cs := k.toList
  let control := cs.any Quoted.isControl
  if !cs.isEmpty && cs.all isBare then cs
  else if !control && !cs.contains '\\' && !cs.contains '"' then Quoted.Style.basic.write cs
  else if !control && !cs.contains '\'' then Quoted.Style.literal.write cs
  else Quoted.Style.basic.write cs

/-- The parts with dots between them. -/
def writePath : List String → List Char
  | [] => []
  | [k] => write k
  | k :: ks => write k ++ '.' :: writePath ks

end Key

/-! ### Values -/

/-- The text after blanks, line ends and comments. `comment` says that a comment has begun. -/
def skipLines (comment : Bool) : List Char → List Char
  | [] => []
  | c :: r =>
    if c = '\n' ∨ c = '\r' ∧ r.head? = some '\n' then skipLines false r
    else if comment then if isPlain c then skipLines true r else c :: r
    else if isSpace c then skipLines false r
    else if c = '#' then skipLines true r
    else c :: r

/-- The items of an array after its bracket; there are no more than `n`. -/
def items? (value? : List Char → Option (Value × List Char)) :
    Nat → List Char → Option (List Value × List Char)
  | 0, _ => none
  | n + 1, cs =>
    match skipLines false cs with
    | ']' :: rest => some ([], rest)
    | cs => do
      let (v, r) ← value? cs
      match skipLines false r with
      | ',' :: r =>
        let (vs, rest) ← items? value? n r
        return (v :: vs, rest)
      | ']' :: rest => return ([v], rest)
      | _ => none

/-- A key, its value, and the text after the blanks behind it. -/
def keyValue? (value? : List Char → Option (Value × List Char)) (cs : List Char) :
    Option ((List String × Value) × List Char) := do
  match ← Key.path? maxDepth cs with
  | (path, '=' :: r) =>
    let (v, rest) ← value? (r.dropWhile isSpace)
    return ((path, v), rest.dropWhile isSpace)
  | _ => none

/-- The members of a table in braces; there are no more than `n`. -/
def members? (value? : List Char → Option (Value × List Char)) :
    Nat → List Char → Option (List (List String × Value) × List Char)
  | 0, _ => none
  | n + 1, cs => do
    let (m, r) ← keyValue? value? cs
    match r with
    | ',' :: r =>
      let (ms, rest) ← members? value? n r
      return (m :: ms, rest)
    | '\x7d' :: rest => return ([m], rest)
    | _ => none

/-- A table after its brace. -/
def braces? (value? : List Char → Option (Value × List Char)) (cs : List Char) :
    Option (Value × List Char) :=
  match cs.dropWhile isSpace with
  | '\x7d' :: rest => some (.table [], rest)
  | r => do
    let (ms, rest) ← members? value? r.length r
    return ((← Table.ofAssignments? ms).toValue, rest)

/-- The value at the front, with at most `n` arrays and tables inside one another, and the rest. -/
def value? (n : Nat) (cs : List Char) : Option (Value × List Char) :=
  match n, cs with
  | n + 1, '[' :: r => (items? (value? n) (r.length + 1) r).map fun (vs, rest) => (.array vs, rest)
  | n + 1, '\x7b' :: r => braces? (value? n) r
  | _, 't' :: 'r' :: 'u' :: 'e' :: r => some (.bool true, r)
  | _, 'f' :: 'a' :: 'l' :: 's' :: 'e' :: r => some (.bool false, r)
  | _, '"' :: r => (Quoted.read? ('"' :: r)).map fun (s, rest) => (.string s, rest)
  | _, '\'' :: r => (Quoted.read? ('\'' :: r)).map fun (s, rest) => (.string s, rest)
  | _, r => Number.read? r

/-! ### Statements -/

namespace Statement

/-- The text after the end of a line, which may hold a comment. -/
def lineEnd? (cs : List Char) : Option (List Char) :=
  let r := match cs.dropWhile isSpace with
    | '#' :: r => r.dropWhile isPlain
    | r => r
  match r with
  | [] => some []
  | '\n' :: rest => some rest
  | '\r' :: '\n' :: rest => some rest
  | _ => none

/-- The statement of a line that does not begin with a blank, and the text after the line. -/
def next? : List Char → Option (Statement × List Char)
  | '[' :: '[' :: r => do
    match ← Key.path? maxDepth r with
    | (path, ']' :: ']' :: r) => return (.item path, ← lineEnd? r)
    | _ => none
  | '[' :: r => do
    match ← Key.path? maxDepth r with
    | (path, ']' :: r) => return (.header path, ← lineEnd? r)
    | _ => none
  | cs => do
    let ((path, v), r) ← keyValue? (value? maxDepth) cs
    return (.assign path v, ← lineEnd? r)

/-- The statements of a text of at most `n` lines. -/
def scanLines : Nat → List Char → Option (List Statement)
  | 0, cs => if cs.all isSpace then some [] else none
  | n + 1, cs =>
    match cs.dropWhile isSpace with
    | [] => some []
    | c :: r =>
      if c = '#' ∨ c = '\n' ∨ c = '\r' then
        (lineEnd? (c :: r)).bind (scanLines n)
      else do
        let (s, rest) ← next? (c :: r)
        return s :: (← scanLines n rest)

/-- The statements of a text. A mark of the order of bytes at its front is left out. -/
def scan (cs : List Char) : Option (List Statement) :=
  let cs := match cs with
    | '\ufeff' :: r => r
    | r => r
  scanLines cs.length cs

/-- The line of a header. -/
def writeHeader (path : List String) : List Char := '[' :: Key.writePath path ++ [']', '\n']

def writeString (k s : String) : List Char :=
  Key.write k ++ ' ' :: '=' :: ' ' :: Quoted.quote s ++ ['\n']

def writeNatural (k : String) (n : Nat) : List Char :=
  Key.write k ++ ' ' :: '=' :: ' ' :: Text.decimal n ++ ['\n']

end Statement

/-- The table that the statements make, and the path of the table they add to last. -/
def runStatement (state : Table × List String) : Statement → Option (Table × List String)
  | .header path => do
    let k ← path.getLast?
    return (← Table.descend false (Table.openTable? k) path.dropLast state.1, path)
  | .item path => do
    let k ← path.getLast?
    return (← Table.descend false (Table.openItem? k) path.dropLast state.1, path)
  | .assign path v => do
    return (← Table.descend false (Table.assign? path v) state.2 state.1, state.2)

def Table.ofStatements? (ss : List Statement) : Option Table :=
  (ss.foldlM runStatement (Table.empty, [])).map Prod.fst

/-- The value of a whole text. -/
def Value.parse? (cs : List Char) : Option Value :=
  ((Statement.scan cs).bind Table.ofStatements?).map Table.toValue

end AlarmKeypad.Toml
