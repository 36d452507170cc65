/-!
Lists of names bound to values, in order of the names.
-/

namespace AlarmKeypad.Bindings

/-- The list with `k` bound to `v`, in order of names if it is. -/
def insert {α : Type} (k : String) (v : α) : List (String × α) → List (String × α)
  | [] => [(k, v)]
  | (l, w) :: r =>
    if k = l then (k, v) :: r
    else if k < l then (k, v) :: (l, w) :: r
    else (l, w) :: insert k v r

/-- The bindings in order of names; of several with one name the last stays. -/
def sort {α : Type} (bs : List (String × α)) : List (String × α) :=
  bs.foldl (fun acc (k, v) => insert k v acc) []

end AlarmKeypad.Bindings
