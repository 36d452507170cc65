import AlarmKeypad.Config
import AlarmKeypad.Proofs.Toml.Order

namespace AlarmKeypad

namespace Toml.Value

open Bindings (InOrder)

variable {ms below : List (String × Value)} {v w : Value}

/-- A value that may be absent over one that may be absent. -/
def overlaid : Option Value → Option Value → Option Value
  | none, w => w
  | some v, none => some v
  | some v, some w => some (v.overlay w)

theorem lookup_membersOver (h : InOrder ms) (below : List (String × Value)) (k : String) :
    (membersOver ms below).lookup k = overlaid (ms.lookup k) (below.lookup k) := by
  induction ms generalizing below with
  | nil => rfl
  | cons m ms ih =>
    obtain ⟨l, v⟩ := m
    rw [membersOver, ih h.tail]
    by_cases hk : k = l
    · subst hk
      have hnone : ms.lookup k = none := h.lookup_tail
      rw [hnone, List.lookup_cons_self, Bindings.lookup_insert_self]
      cases below.lookup k <;> rfl
    · rw [Bindings.lookup_insert_of_ne hk, Bindings.lookup_cons_of_ne hk]

theorem inOrder_membersOver (h : InOrder below) : InOrder (membersOver ms below) := by
  induction ms generalizing below with
  | nil => exact h
  | cons m ms ih => exact ih (Bindings.inOrder_insert h _ _)

theorem overlaid_leaf (h : ∀ ms, v ≠ .table ms) (x : Option Value) :
    overlaid (some v) x = some v := by
  cases x with
  | none => rfl
  | some w => exact congrArg some (overlay_leaf h w)

/-- What a table, if there is one, has under a name. -/
def member? (k : String) : Option Value → Option Value
  | some (.table ms) => ms.lookup k
  | _ => none

/-- A table stays alone over what is no table, and joins one that is. -/
theorem overlaid_table (ms : List (String × Value)) (x : Option Value) :
    overlaid (some (.table ms)) x = some (.table ms) ∧ (∀ k, member? k x = none) ∨
      ∃ below, x = some (.table below) ∧
        overlaid (some (.table ms)) x = some (.table (membersOver ms below)) := by
  cases x with
  | none => exact .inl ⟨rfl, fun _ => rfl⟩
  | some w =>
    cases w with
    | table below => exact .inr ⟨below, rfl, by rw [overlaid, overlay]⟩
    | _ =>
      exact .inl ⟨congrArg some (overlay_of_leaf _ fun _ => Value.noConfusion), fun _ => rfl⟩

theorem exists_lookup_overlaid (h : InOrder ms) (x : Option Value) :
    ∃ vs, overlaid (some (.table ms)) x = some (.table vs) ∧
      ∀ k, vs.lookup k = overlaid (ms.lookup k) (member? k x) := by
  rcases overlaid_table ms x with ⟨hover, hnone⟩ | ⟨below, rfl, hover⟩
  · refine ⟨ms, hover, fun k => ?_⟩
    rw [hnone]
    cases ms.lookup k <;> rfl
  · exact ⟨_, hover, lookup_membersOver h below⟩

theorem Ordered.overlaid {e x : Option Value} (he : ∀ v ∈ e, v.Ordered) (hx : ∀ w ∈ x, w.Ordered) :
    ∀ v ∈ Value.overlaid e x, v.Ordered := by
  intro v hv
  cases e with
  | none => exact hx v hv
  | some e =>
    cases x with
    | none => exact he v hv
    | some w => exact Option.some.inj hv ▸ (he e rfl).overlay (hx w rfl)

theorem Ordered.member? {x : Option Value} (hx : ∀ w ∈ x, w.Ordered) (k : String) :
    ∀ w ∈ member? k x, w.Ordered := by
  intro w hw
  unfold Value.member? at hw
  split at hw
  · exact (hx _ rfl).lookup hw
  · cases hw

/-- A reader that takes no table reads again what was read, where the value below has come to say
it. -/
theorem read_overlaid {α : Type} {e x w : Option Value} {a : α} (read : Option Value → Option α)
    (htable : ∀ ms, read (some (.table ms)) = none) (h : read (overlaid e x) = some a)
    (hw : read w = some a) : read (overlaid e w) = some a := by
  cases e with
  | none => exact hw
  | some e =>
    rcases table_or_leaf e with ⟨ms, rfl⟩ | hleaf
    · rcases overlaid_table ms x with ⟨hover, -⟩ | ⟨below, -, hover⟩ <;>
        rw [hover, htable] at h <;> cases h
    · rw [overlaid_leaf hleaf] at h ⊢
      exact h

end Toml.Value

end AlarmKeypad
