import AlarmKeypad.Json.Value
import AlarmKeypad.Proofs.Bindings

namespace AlarmKeypad.Json.Value

/-- What holds of an array or object whenever it holds of all that is in it holds of every value. -/
theorem induct {P : Value → Prop} (null : P .null) (bool : ∀ b, P (.bool b)) (int : ∀ n, P (.int n))
    (float : ∀ x, P (.float x)) (string : ∀ s, P (.string s))
    (array : ∀ items, (∀ v ∈ items, P v) → P (.array items))
    (object : ∀ members : List (String × Value), (∀ m ∈ members, P m.2) → P (.object members)) :
    ∀ v, P v
  | .null => null
  | .bool b => bool b
  | .int n => int n
  | .float x => float x
  | .string s => string s
  | .array items => array items fun v _ => induct null bool int float string array object v
  | .object members =>
    object members fun m _ => induct null bool int float string array object m.2
termination_by v => sizeOf v
decreasing_by
  · have := List.sizeOf_lt_of_mem ‹v ∈ items›
    simp only [Value.array.sizeOf_spec]
    omega
  · have := List.sizeOf_lt_of_mem ‹m ∈ members›
    obtain ⟨k, x⟩ := m
    simp only [Value.object.sizeOf_spec, Prod.mk.sizeOf_spec] at this ⊢
    omega

/-- Every number in the value is an integer of 64 bits, signed or not. -/
inductive Integral : Value → Prop
  | null : Integral .null
  | bool (b) : Integral (.bool b)
  | int (n) (low : -(UInt64.size / 2 : Int) ≤ n) (high : n < UInt64.size) : Integral (.int n)
  | string (s) : Integral (.string s)
  | array (items) (h : ∀ v ∈ items, Integral v) : Integral (.array items)
  | object (members : List (String × Value)) (h : ∀ m ∈ members, Integral m.2) :
      Integral (.object members)

/-- No more than `n` arrays and objects lie inside one another. -/
inductive Within : Nat → Value → Prop
  | null (n) : Within n .null
  | bool (n b) : Within n (.bool b)
  | int (n i) : Within n (.int i)
  | float (n x) : Within n (.float x)
  | string (n s) : Within n (.string s)
  | array (n items) (h : ∀ v ∈ items, Within n v) : Within (n + 1) (.array items)
  | object (n) (members : List (String × Value)) (h : ∀ m ∈ members, Within n m.2) :
      Within (n + 1) (.object members)

theorem sortedItems_eq (items : List Value) : sortedItems items = items.map sorted := by
  induction items with
  | nil => rfl
  | cons v r ih => rw [sortedItems, ih, List.map_cons]

theorem sortedMembers_eq (members : List (String × Value)) :
    sortedMembers members = members.map fun m => (m.1, m.2.sorted) := by
  induction members with
  | nil => rfl
  | cons m r ih => rw [sortedMembers, ih, List.map_cons]

theorem sorted_array (items : List Value) : (array items).sorted = array (items.map sorted) := by
  rw [sorted, sortedItems_eq]

theorem sorted_object (members : List (String × Value)) :
    (object members).sorted = object (Bindings.sort (sortedMembers members)) := by
  rw [sorted]

/-- The members of a sorted object are sorted values of members there were. -/
theorem exists_of_mem_sort {members : List (String × Value)} {m : String × Value}
    (h : m ∈ Bindings.sort (sortedMembers members)) :
    ∃ x ∈ members, m = (x.1, x.2.sorted) := by
  have hm := Bindings.mem_of_mem_sort h
  rw [sortedMembers_eq] at hm
  obtain ⟨x, hx, rfl⟩ := List.mem_map.mp hm
  exact ⟨x, hx, rfl⟩

theorem sortedMembers_eq_self {members : List (String × Value)}
    (h : ∀ m ∈ members, m.2.sorted = m.2) : sortedMembers members = members := by
  rw [sortedMembers_eq]
  refine (List.map_congr_left fun m hm => ?_).trans (List.map_id members)
  exact Prod.ext rfl (h m hm)

/-- Members that have been sorted stay as they are. -/
theorem sort_sortedMembers {members : List (String × Value)}
    (h : ∀ m ∈ members, m.2.sorted.sorted = m.2.sorted) :
    Bindings.sort (sortedMembers (Bindings.sort (sortedMembers members))) =
      Bindings.sort (sortedMembers members) := by
  rw [sortedMembers_eq_self]
  · exact Bindings.sort_eq_self (Bindings.inOrder_sort _)
  · intro m hm
    obtain ⟨x, hx, rfl⟩ := exists_of_mem_sort hm
    exact h x hx

theorem sorted_sorted (v : Value) : v.sorted.sorted = v.sorted := by
  induction v using induct with
  | array items ih =>
    rw [sorted_array, sorted_array, List.map_map]
    exact congrArg array (List.map_congr_left fun v hv => ih v hv)
  | object members ih => rw [sorted_object, sorted_object, sort_sortedMembers ih]
  | _ => rfl

theorem Within.sorted {n : Nat} {v : Value} (h : Within n v) : Within n v.sorted := by
  induction h with
  | array n items _ ih =>
    rw [sorted_array]
    refine .array n _ fun v hv => ?_
    obtain ⟨x, hx, rfl⟩ := List.mem_map.mp hv
    exact ih x hx
  | object n members _ ih =>
    rw [sorted_object]
    refine .object n _ fun m hm => ?_
    obtain ⟨x, hx, rfl⟩ := exists_of_mem_sort hm
    exact ih x hx
  | null n => exact .null n
  | bool n b => exact .bool n b
  | int n i => exact .int n i
  | float n x => exact .float n x
  | string n s => exact .string n s

end AlarmKeypad.Json.Value
