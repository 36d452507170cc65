import AlarmKeypad.Toml.Value
/-!
Tables while a text is read: how a table came to be decides what may still be added to it.
-/

namespace AlarmKeypad.Toml

inductive Origin where
  /-- A header of its own, or one item of a repeated header. -/
  | header
  /-- Only part of the path of a header. -/
  | implied
  /-- Part of a key with dots. -/
  | dotted
deriving DecidableEq

inductive Node where
  | value (v : Value)
  | table (origin : Origin) (members : List (String × Node))
  /-- The tables under one repeated header, the last first. -/
  | tables (items : List (List (String × Node)))

namespace Node

mutual

def toValue : Node → Value
  | .value v => v
  | .table _ ms => .table (memberValues ms)
  | .tables items => .array (itemValues items).reverse

def memberValues : List (String × Node) → List (String × Value)
  | [] => []
  | (k, n) :: r => (k, n.toValue) :: memberValues r

def itemValues : List (List (String × Node)) → List Value
  | [] => []
  | ms :: r => .table (memberValues ms) :: itemValues r

end

end Node

structure Table where
  origin : Origin
  members : List (String × Node)

namespace Table

def empty : Table := ⟨.header, []⟩

def toNode (t : Table) : Node := .table t.origin t.members

def toValue (t : Table) : Value := t.toNode.toValue

/-- The table with `f` done to the table at the end of a path. Tables on the way are made where
there are none; of a repeated header the last table is taken. Keys with dots do not lead through a
table that has a header. -/
def descend (dots : Bool) (f : Table → Option Table) : List String → Table → Option Table
  | [], t => f t
  | k :: path, t => do
    let node ← match t.members.lookup k with
      | none => (descend dots f path ⟨if dots then .dotted else .implied, []⟩).map toNode
      | some (.value _) => none
      | some (.tables []) => none
      | some (.tables (last :: others)) =>
        (descend dots f path ⟨.header, last⟩).map fun t => .tables (t.members :: others)
      | some (.table origin ms) =>
        if dots && origin == .header then none else (descend dots f path ⟨origin, ms⟩).map toNode
    return { t with members := Bindings.insert k node t.members }

/-- Begins the table of a header, which may have been implied by another one. -/
def openTable? (k : String) (t : Table) : Option Table :=
  match t.members.lookup k with
  | none => some { t with members := Bindings.insert k (.table .header []) t.members }
  | some (.table .implied ms) =>
    some { t with members := Bindings.insert k (.table .header ms) t.members }
  | _ => none

/-- Begins one more table of a repeated header. -/
def openItem? (k : String) (t : Table) : Option Table :=
  match t.members.lookup k with
  | none => some { t with members := Bindings.insert k (.tables [[]]) t.members }
  | some (.tables items) =>
    some { t with members := Bindings.insert k (.tables ([] :: items)) t.members }
  | _ => none

/-- Adds a member. A key with dots adds to a table that such keys made, and no other key does. -/
def add? (dots : Bool) (k : String) (v : Value) (t : Table) : Option Table :=
  if dots = (t.origin == .dotted) ∧ (t.members.lookup k).isNone then
    some { t with members := Bindings.insert k (.value v) t.members }
  else none

/-- Adds a value under a key with any number of dots. -/
def assign? (path : List String) (v : Value) (t : Table) : Option Table :=
  match path.getLast? with
  | none => none
  | some k =>
    let front := path.dropLast
    descend true (add? (!front.isEmpty) k v) front t

/-- The table of all assignments, in their order. -/
def ofAssignments? (as : List (List String × Value)) : Option Table :=
  as.foldlM (fun t (path, v) => t.assign? path v) empty

end Table
end AlarmKeypad.Toml
