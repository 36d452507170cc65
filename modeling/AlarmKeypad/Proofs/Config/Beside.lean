import AlarmKeypad.Proofs.Config.Overlay
/-!
# Values that differ at a path

A value that has beside a path all that another has, and nothing more, still does so when the same
is laid over both, and when both are laid over the same: unless the other is no table somewhere on
the path, for then it hides what lies below it and a table does not.
-/

namespace AlarmKeypad.Toml.Value

variable {R S : Option Value → Option Value → Prop} {k : String} {v w x : Option Value}

/-- Two values are equal, or the second is a table that has beside `k` what the first has, and what
they have there is related. -/
def Beside (k : String) (R : Option Value → Option Value → Prop) (v w : Option Value) : Prop :=
  v = w ∨ ∃ ws, w = some (.table ws) ∧ (∀ l, l ≠ k → ws.lookup l = member? l v) ∧
    R (member? k v) (ws.lookup k)

/-- Two values differ along a path, and what they have at its end is related. -/
def BesideAt : List String → (Option Value → Option Value → Prop) →
    Option Value → Option Value → Prop
  | [], R => R
  | k :: path, R => Beside k (BesideAt path R)

/-- What is related stays so when the same is laid over both. -/
def StaysUnder (R : Option Value → Option Value → Prop) : Prop :=
  ∀ {t v w : Option Value}, (∀ u ∈ t, u.Ordered) → R v w → R (overlaid t v) (overlaid t w)

theorem staysUnder_beside (hR : StaysUnder R) (k : String) : StaysUnder (Beside k R) := by
  intro t v w ht h
  cases t with
  | none => exact h
  | some t =>
    rcases t.table_or_leaf with ⟨ts, rfl⟩ | hleaf
    · obtain rfl | ⟨ws, rfl, hbeside, hat⟩ := h
      · exact .inl rfl
      · obtain ⟨horder, -⟩ := (ht _ rfl).members
        obtain ⟨vs, hvs, hlookup⟩ := exists_lookup_overlaid horder v
        obtain ⟨us, hus, hlookup'⟩ := exists_lookup_overlaid horder (some (.table ws))
        refine .inr ⟨us, hus, fun l hl => ?_, ?_⟩
        · rw [hlookup', hvs, member?, member?, hlookup, hbeside l hl]
        · rw [hlookup', hvs, member?, member?, hlookup]
          exact hR (fun u hu => (ht _ rfl).lookup hu) hat
    · rw [overlaid_leaf hleaf, overlaid_leaf hleaf]
      exact .inl rfl

theorem staysUnder_besideAt (hR : StaysUnder R) (path : List String) :
    StaysUnder (BesideAt path R) := by
  induction path with
  | nil => exact hR
  | cons k path ih => exact staysUnder_beside ih k

/-- Something is there in the second. -/
def Present (_ w : Option Value) : Prop := w.isSome = true

theorem present_overlaid (y : Value) (x : Option Value) : Present x (overlaid (some y) x) := by
  cases x <;> rfl

theorem staysUnder_present : StaysUnder Present := by
  rintro (_ | t) v w - h
  · exact h
  · exact present_overlaid t w

/-- What a table or nothing has over something, member by member. -/
theorem member?_overlaid (hv : ∀ u ∈ v, u.Ordered) (htable : ∀ u ∈ v, ∃ ms, u = .table ms)
    (x : Option Value) (l : String) :
    member? l (overlaid v x) = overlaid (member? l v) (member? l x) := by
  cases v with
  | none => rfl
  | some u =>
    obtain ⟨ms, rfl⟩ := htable u rfl
    obtain ⟨vs, hvs, hlookup⟩ := exists_lookup_overlaid (hv _ rfl).members.1 x
    rw [hvs]
    exact hlookup l

/-- A table with one member has nothing to say beside it. -/
theorem beside_singleton {y : Value} (h : R (member? k v) (overlaid (some y) (member? k v))) :
    Beside k R v (overlaid (some (.table [(k, y)])) v) := by
  obtain ⟨ws, hws, hlookup⟩ := exists_lookup_overlaid (List.pairwise_singleton _ (k, y)) v
  refine .inr ⟨ws, hws, fun l hl => ?_, ?_⟩
  · rw [hlookup, Bindings.lookup_cons_of_ne hl]
    rfl
  · rw [hlookup, List.lookup_cons_self]
    exact h

/-- Laid over something, a value that hides nothing and one that differs from it at `k` still differ
there alone. -/
theorem Beside.overlaid (h : Beside k R v w) (hv : ∀ u ∈ v, u.Ordered) (hw : ∀ u ∈ w, u.Ordered)
    (htable : ∀ u ∈ v, ∃ ms, u = .table ms)
    (hR : R (member? k v) (member? k w) → S (Value.overlaid (member? k v) (member? k x))
      (Value.overlaid (member? k w) (member? k x))) :
    Beside k S (Value.overlaid v x) (Value.overlaid w x) := by
  obtain rfl | ⟨ws, rfl, hbeside, hat⟩ := h
  · exact .inl rfl
  · obtain ⟨us, hus, hlookup⟩ := exists_lookup_overlaid (hw _ rfl).members.1 x
    refine .inr ⟨us, hus, fun l hl => ?_, ?_⟩
    · rw [hlookup, hbeside l hl, member?_overlaid hv htable]
    · rw [hlookup, member?_overlaid hv htable]
      exact hR hat

/-- The second value is the first with another member at `k`. Or the first, which is no table, is
hidden by a table of that member alone, and the second is this table over `x`. -/
inductive Altered (k : String) (x : Option Value) (u w : Option Value) : Prop
  | same (h : u = w)
  | member {ws : List (String × Value)} (hu : ∀ v ∈ u, ∃ ms, v = .table ms)
    (hw : w = some (.table ws)) (h : ∀ l, l ≠ k → ws.lookup l = member? l u)
  | hidden {v y : Value} (hu : u = some v) (hv : ∀ ms, v ≠ .table ms)
    (hw : w = overlaid (some (.table [(k, y)])) x)

theorem table_or_leaf? (v : Option Value) :
    (∀ u ∈ v, ∃ ms, u = .table ms) ∨ ∃ u, v = some u ∧ ∀ ms, u ≠ .table ms := by
  cases v with
  | none => exact .inl fun _ hu => nomatch hu
  | some u =>
    exact u.table_or_leaf.imp (fun h _ hu => Option.some.inj hu ▸ h) fun h => ⟨u, rfl, h⟩

theorem member?_leaf {u : Value} (h : ∀ ms, u ≠ .table ms) (k : String) :
    member? k (some u) = none := by
  cases u with
  | table ms => exact absurd rfl (h ms)
  | _ => rfl

/-- What has nothing beside one member is a table of this member. -/
theorem eq_singleton {ws : List (String × Value)} (hws : Bindings.InOrder ws)
    (h : ∀ l, l ≠ k → ws.lookup l = none) (hk : (ws.lookup k).isSome = true) :
    ∃ y, ws = [(k, y)] := by
  obtain ⟨y, hy⟩ := Option.isSome_iff_exists.mp hk
  refine ⟨y, hws.ext (List.pairwise_singleton _ _) fun l => ?_⟩
  by_cases hl : l = k
  · rw [hl, hy, List.lookup_cons_self]
  · rw [h l hl, Bindings.lookup_cons_of_ne hl]
    rfl

theorem altered_overlaid (h : Beside k Present v w) (hv : ∀ u ∈ v, u.Ordered)
    (hw : ∀ u ∈ w, u.Ordered) (x : Option Value) :
    Altered k x (overlaid v x) (overlaid w x) := by
  obtain rfl | ⟨ws, rfl, hbeside, hat⟩ := h
  · exact .same rfl
  · have horder : Bindings.InOrder ws := (hw _ rfl).members.1
    obtain ⟨us, hus, hlookup⟩ := exists_lookup_overlaid horder x
    -- where the first value is hidden it has no members, so the second has this one alone
    have hhidden {u : Value} (hu : overlaid v x = some u) (hleaf : ∀ ms, u ≠ .table ms)
        (hnone : ∀ l, member? l v = none) :
        Altered k x (overlaid v x) (overlaid (some (.table ws)) x) := by
      obtain ⟨y, rfl⟩ := eq_singleton horder (fun l hl => (hbeside l hl).trans (hnone l)) hat
      exact .hidden hu hleaf rfl
    have hmember (htable : ∀ u ∈ v, ∃ ms, u = .table ms)
        (hu : ∀ u ∈ overlaid v x, ∃ ms, u = .table ms) :
        Altered k x (overlaid v x) (overlaid (some (.table ws)) x) :=
      .member hu hus fun l hl => by rw [hlookup, hbeside l hl, member?_overlaid hv htable]
    cases v with
    | none =>
      rcases table_or_leaf? x with htable | ⟨u, hu, hleaf⟩
      · exact hmember (fun _ hu => nomatch hu) htable
      · exact hhidden hu hleaf fun _ => rfl
    | some v =>
      rcases v.table_or_leaf with ⟨ms, rfl⟩ | hleaf
      · obtain ⟨vs, hvs, -⟩ := exists_lookup_overlaid (hv _ rfl).members.1 x
        exact hmember (fun _ hu => ⟨ms, (Option.some.inj hu).symm⟩)
          fun _ hu => ⟨vs, Option.some.inj (hu.symm.trans hvs)⟩
      · exact hhidden (overlaid_leaf hleaf x) hleaf (member?_leaf hleaf)

end AlarmKeypad.Toml.Value
