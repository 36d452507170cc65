import AlarmKeypad.Config.Variable
import AlarmKeypad.Proofs.Toml.Order

namespace AlarmKeypad.Variable

open Toml (Value)

variable {cs : List Char} {value? : List Char → Option (Value × List Char)}

theorem ordered_word (cs : List Char) : (word cs).Ordered := by
  unfold word
  split
  · exact .leaf fun _ => Value.noConfusion
  · split <;> exact .leaf fun _ => Value.noConfusion

theorem ordered_of_members? {n : Nat} {r : List (String × Value) × List Char}
    (hv : ∀ {cs r}, value? cs = some r → r.1.Ordered) (h : members? value? n cs = some r) :
    ∀ m ∈ r.1, m.2.Ordered := by
  have hmember {cs : List Char} {r : (String × Value) × List Char}
      (h : member? value? cs = some r) : r.1.2.Ordered := by
    obtain ⟨⟨k, cs⟩, -, h⟩ := Option.bind_eq_some_iff.mp h
    dsimp only at h
    split at h
    · obtain ⟨⟨v, rest⟩, hvalue, h⟩ := Option.bind_eq_some_iff.mp h
      exact Option.some.inj h ▸ hv hvalue
    · cases h
  induction n generalizing cs r with
  | zero => cases h
  | succ n ih =>
    unfold members? at h
    split at h
    · cases h
    · exact Option.some.inj h ▸ by simp
    · rename_i heq _
      obtain rfl := Nat.succ.inj heq
      obtain ⟨⟨m, cs⟩, hm, h⟩ := Option.bind_eq_some_iff.mp h
      dsimp only at h
      split at h
      · obtain ⟨⟨ms, rest⟩, hms, h⟩ := Option.bind_eq_some_iff.mp h
        exact Option.some.inj h ▸ List.forall_mem_cons.mpr ⟨hmember hm, ih hms⟩
      · exact Option.some.inj h ▸ List.forall_mem_singleton.mpr (hmember hm)
      · cases h

theorem ordered_of_bare? {r : Value × List Char}
    (hv : ∀ {cs r}, value? cs = some r → r.1.Ordered) (h : bare? value? cs = some r) :
    r.1.Ordered := by
  unfold bare? at h
  split at h
  · exact Option.some.inj h ▸ .leaf fun _ => Value.noConfusion
  · exact Option.some.inj h ▸ .leaf fun _ => Value.noConfusion
  · exact Value.ordered_of_map (fun _ _ => Value.noConfusion) h
  · obtain ⟨p, hp, rfl⟩ := Option.map_eq_some_iff.mp h
    exact Value.ordered_sort (ordered_of_members? hv hp)
  · exact Value.ordered_of_map (fun _ _ => Value.noConfusion) h
  · exact Option.some.inj h ▸ .leaf fun _ => Value.noConfusion
  · cases h
  · exact Option.some.inj h ▸ ordered_word _

theorem ordered_of_value? {n : Nat} {r : Value × List Char} (h : Variable.value? n cs = some r) :
    r.1.Ordered := by
  induction n generalizing cs r with
  | zero => cases h
  | succ n ih =>
    obtain ⟨⟨v, rest⟩, hbare, h⟩ := Option.bind_eq_some_iff.mp h
    have hv : v.Ordered := ordered_of_bare? (fun {_ _} h => ih h) hbare
    exact Option.some.inj h ▸ hv

theorem ordered_value (s : String) : (value s).Ordered := by
  unfold value
  split
  · exact ordered_of_value? ‹_›
  · exact .leaf fun _ => Value.noConfusion

theorem ordered_nest {v : Value} (path : List String) (h : v.Ordered) : (nest path v).Ordered := by
  induction path with
  | nil => exact h
  | cons k path ih =>
    unfold nest
    split
    · exact h
    · exact Value.ordered_singleton k ih

/-- The settings of all variables have their tables in order. -/
theorem ordered_of_settings? {env : Environment} {v : Value} (h : settings? env = some v) :
    v.Ordered := by
  refine Toml.foldlM_keeps (fun x _ {below next} hbelow hnext => ?_) (.table .nil (by simp)) h
  dsimp only at hnext
  split at hnext
  · exact Option.some.inj hnext ▸ hbelow
  · rename_i path _
    have hnest := ordered_nest path (ordered_value x.2)
    split at hnext
    · rename_i ms heq
      rw [heq] at hnest
      exact Option.some.inj hnext ▸ hnest.overlay hbelow
    · cases hnext

end AlarmKeypad.Variable
