import AlarmKeypad.Json.Token
/-!
JSON values from tokens: a machine that takes one token a time and keeps the open arrays and objects
on a stack.
-/

namespace AlarmKeypad.Json

/-- An open array or object, with what it holds so far, the last first. -/
inductive Frame where
  | array (items : List Value)
  | object (members : List Member) (key : String)

/-- What the machine waits for. -/
inductive Expect where
  /-- A value. -/
  | value
  /-- The first item of an array, or its end. -/
  | firstItem
  /-- The first key of an object, or its end. -/
  | firstKey
  /-- A key after a comma in an object with these members. -/
  | key (members : List Member)
  /-- The colon after a key. -/
  | colon (members : List Member) (key : String)
  /-- What follows a complete value. -/
  | after (v : Value)

structure Reader where
  expect : Expect
  stack : List Frame

namespace Reader

/-- The greatest number of arrays and objects inside one another. -/
def maxDepth : Nat := 127

def start : Reader := ⟨.value, []⟩

/-- Takes the first token of a value. -/
def beginValue (t : Token) (stack : List Frame) : Option Reader :=
  match t with
  | .null => some ⟨.after .null, stack⟩
  | .bool b => some ⟨.after (.bool b), stack⟩
  | .int n => some ⟨.after (.int n), stack⟩
  | .float x => some ⟨.after (.float x), stack⟩
  | .string s => some ⟨.after (.string s), stack⟩
  | .beginArray => if stack.length < maxDepth then some ⟨.firstItem, stack⟩ else none
  | .beginObject => if stack.length < maxDepth then some ⟨.firstKey, stack⟩ else none
  | .endObject | .endArray | .comma | .colon => none

/-- Takes the token after the value `v`. -/
def endValue (v : Value) (t : Token) (stack : List Frame) : Option Reader :=
  match stack, t with
  | .array items :: stack, .comma => some ⟨.value, .array (v :: items) :: stack⟩
  | .array items :: stack, .endArray => some ⟨.after (.array (v :: items).reverse), stack⟩
  | .object members k :: stack, .comma => some ⟨.key ((k, v) :: members), stack⟩
  | .object members k :: stack, .endObject =>
    some ⟨.after (.object ((k, v) :: members).reverse), stack⟩
  | _, _ => none

def step (r : Reader) (t : Token) : Option Reader :=
  match r.expect, t with
  | .value, t => beginValue t r.stack
  | .firstItem, .endArray => some ⟨.after (.array []), r.stack⟩
  | .firstItem, t => beginValue t (.array [] :: r.stack)
  | .firstKey, .endObject => some ⟨.after (.object []), r.stack⟩
  | .firstKey, .string k => some ⟨.colon [] k, r.stack⟩
  | .key members, .string k => some ⟨.colon members k, r.stack⟩
  | .colon members k, .colon => some ⟨.value, .object members k :: r.stack⟩
  | .after v, t => endValue v t r.stack
  | _, _ => none

/-- The value, once it is complete and nothing is open. -/
def result? (r : Reader) : Option Value :=
  match r.expect, r.stack with
  | .after v, [] => some v
  | _, _ => none

def run (r : Reader) (ts : List Token) : Option Reader := ts.foldlM step r

end Reader

/-- The value that the tokens spell. -/
def Value.ofTokens? (ts : List Token) : Option Value := (Reader.start.run ts).bind Reader.result?

/-- The value of a text, with the members of objects as they stand in it. -/
def Value.parse? (cs : List Char) : Option Value := (Token.scan cs).bind Value.ofTokens?

end AlarmKeypad.Json
