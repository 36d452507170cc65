import AlarmKeypad.Proofs.Bindings
import AlarmKeypad.Toml.Statement

namespace AlarmKeypad.Toml

open Bindings (InOrder insert)

variable {cs rest : List Char} {k : String} {v w : Value}

/-- What every step keeps is kept to the end of a run that does not fail. -/
theorem foldlM_keeps {σ α : Type} {p : σ → Prop} {f : σ → α → Option σ} {as : List α} {s s' : σ}
    (hstep : ∀ a ∈ as, ∀ {s s'}, p s → f s a = some s' → p s') (h : p s)
    (hrun : as.foldlM f s = some s') : p s' := by
  induction as generalizing s with
  | nil => exact Option.some.inj hrun ▸ h
  | cons a as ih =>
    obtain ⟨ha, has⟩ := List.forall_mem_cons.mp hstep
    obtain ⟨next, hnext, hrun⟩ := Option.bind_eq_some_iff.mp hrun
    exact ih has (ha h hnext) hrun

/-- Every table, outside of arrays, has its members in order of their names. -/
inductive Value.Ordered : Value → Prop
  | table {ms : List (String × Value)} (horder : InOrder ms) (hms : ∀ m ∈ ms, Ordered m.2) :
    Ordered (.table ms)
  | leaf {v : Value} (h : ∀ ms, v ≠ .table ms) : Ordered v

namespace Value

variable {ms : List (String × Value)}

theorem Ordered.members (h : (Value.table ms).Ordered) :
    InOrder ms ∧ ∀ m ∈ ms, m.2.Ordered := by
  cases h with
  | table horder hms => exact ⟨horder, hms⟩
  | leaf h => exact absurd rfl (h ms)

theorem Ordered.lookup (h : (Value.table ms).Ordered) (hk : ms.lookup k = some v) : v.Ordered :=
  h.members.2 _ (Bindings.mem_of_lookup hk)

theorem ordered_sort (h : ∀ m ∈ ms, m.2.Ordered) : (Value.table (Bindings.sort ms)).Ordered :=
  .table (Bindings.inOrder_sort ms) fun m hm => h m (Bindings.mem_of_mem_sort hm)

theorem ordered_singleton (k : String) (h : v.Ordered) : (Value.table [(k, v)]).Ordered :=
  .table (List.pairwise_singleton _ _) fun _ hm => List.mem_singleton.mp hm ▸ h

theorem table_or_leaf (v : Value) : (∃ ms, v = .table ms) ∨ ∀ ms, v ≠ .table ms := by
  cases v with
  | table ms => exact .inl ⟨ms, rfl⟩
  | _ => exact .inr fun _ => Value.noConfusion

theorem ordered_of_map {α : Type} {x : Option (α × List Char)} {f : α → Value}
    {r : Value × List Char} (hf : ∀ a ms, f a ≠ .table ms)
    (h : x.map (fun p => (f p.1, p.2)) = some r) : r.1.Ordered := by
  obtain ⟨p, -, rfl⟩ := Option.map_eq_some_iff.mp h
  exact .leaf (hf p.1)

theorem ordered_date (text : String) : (date text).Ordered :=
  ordered_singleton "date" (.leaf fun _ => Value.noConfusion)

theorem Ordered.insert (h : (Value.table ms).Ordered) (k : String) (hv : v.Ordered) :
    (Value.table (insert k v ms)).Ordered :=
  .table (Bindings.inOrder_insert h.members.1 k v) fun m hm =>
    (Bindings.eq_or_mem_of_mem_insert hm).elim (· ▸ hv) (h.members.2 m)

/-! ## Values over one another -/

theorem overlay_leaf (h : ∀ ms, v ≠ .table ms) (w : Value) : v.overlay w = v := by
  rw [overlay]
  exact fun ms _ heq _ => h ms heq

theorem overlay_of_leaf (v : Value) (h : ∀ ms, w ≠ .table ms) : v.overlay w = v := by
  rw [overlay]
  exact fun _ ms _ heq => h ms heq

theorem Ordered.overlay (hv : v.Ordered) (hw : w.Ordered) : (v.overlay w).Ordered := by
  induction hv generalizing w with
  | leaf h => exact (overlay_leaf h w).symm ▸ .leaf h
  | @table ms horder hms ih =>
    cases hw with
    | leaf h => exact (overlay_of_leaf _ h).symm ▸ .table horder hms
    | @table below hbelow hmembers =>
      rw [Value.overlay]
      have hw : (Value.table below).Ordered := .table hbelow hmembers
      clear hbelow hmembers horder
      induction ms generalizing below with
      | nil => exact hw
      | cons m ms ihms =>
        obtain ⟨hm, hms⟩ := List.forall_mem_cons.mp hms
        obtain ⟨ihm, ihrest⟩ := List.forall_mem_cons.mp ih
        rw [membersOver]
        refine ihms hms ihrest (hw.insert m.1 ?_)
        split
        · exact hm
        · exact ihm (hw.lookup ‹_›)

end Value

/-! ## Tables while they are read -/

/-- Every table has its members in order of their names. -/
inductive Node.Ordered : Node → Prop
  | value {v : Value} (h : v.Ordered) : Ordered (.value v)
  | table {ms : List (String × Node)} (origin : Origin) (horder : InOrder ms)
    (hms : ∀ m ∈ ms, Ordered m.2) : Ordered (.table origin ms)
  | tables {items : List (List (String × Node))} (horder : ∀ ms ∈ items, InOrder ms)
    (hms : ∀ ms ∈ items, ∀ m ∈ ms, Ordered m.2) : Ordered (.tables items)

theorem Node.memberValues_eq (ms : List (String × Node)) :
    memberValues ms = ms.map fun m => (m.1, m.2.toValue) := by
  induction ms with
  | nil => rfl
  | cons m ms ih => rw [memberValues, ih, List.map_cons]

theorem Node.Ordered.toValue {n : Node} (h : n.Ordered) : n.toValue.Ordered := by
  induction h with
  | value h => exact h
  | table origin horder hms ih =>
    rw [Node.toValue, Node.memberValues_eq]
    refine .table (horder.map _) fun m hm => ?_
    obtain ⟨x, hx, rfl⟩ := List.mem_map.mp hm
    exact ih x hx
  | tables => exact .leaf fun _ => Value.noConfusion

namespace Table

structure Ordered (t : Table) : Prop where
  inOrder : InOrder t.members
  members : ∀ m ∈ t.members, m.2.Ordered

variable {f : Table → Option Table} {t t' : Table}

theorem ordered_nil (origin : Origin) : Ordered ⟨origin, []⟩ := ⟨.nil, by simp⟩

theorem Ordered.toNode (h : t.Ordered) : t.toNode.Ordered := .table t.origin h.inOrder h.members

theorem Ordered.toValue (h : t.Ordered) : t.toValue.Ordered := h.toNode.toValue

theorem Ordered.insert {n : Node} (h : t.Ordered) (k : String) (hn : n.Ordered) :
    Ordered { t with members := insert k n t.members } :=
  ⟨Bindings.inOrder_insert h.inOrder k n, fun m hm =>
    (Bindings.eq_or_mem_of_mem_insert hm).elim (· ▸ hn) (h.members m)⟩

theorem Ordered.lookup {n : Node} (h : t.Ordered) (hk : t.members.lookup k = some n) : n.Ordered :=
  h.members _ (Bindings.mem_of_lookup hk)

/-- What keeps the order in the table at the end of a path keeps it in the whole. -/
theorem Ordered.descend (h : t.Ordered) (dots : Bool) (path : List String)
    (hf : ∀ {t t' : Table}, t.Ordered → f t = some t' → t'.Ordered)
    (hd : descend dots f path t = some t') : t'.Ordered := by
  induction path generalizing t t' with
  | nil => exact hf h hd
  | cons k path ih =>
    have hput {m : Option Node} (hm : ∀ n, m = some n → n.Ordered)
        (hd : (m.bind fun n => some { t with members := Bindings.insert k n t.members }) =
          some t') : t'.Ordered := by
      obtain ⟨n, hn, hd⟩ := Option.bind_eq_some_iff.mp hd
      exact Option.some.inj hd ▸ h.insert k (hm n hn)
    rw [Table.descend] at hd
    split at hd
    · refine hput (fun n hn => ?_) hd
      obtain ⟨u, hu, rfl⟩ := Option.map_eq_some_iff.mp hn
      exact (ih (ordered_nil _) hu).toNode
    · cases hd
    · cases hd
    · rename_i last others hk
      refine hput (fun n hn => ?_) hd
      obtain ⟨u, hu, rfl⟩ := Option.map_eq_some_iff.mp hn
      cases h.lookup hk with
      | tables horder hms =>
        obtain ⟨hlast, hothers⟩ := List.forall_mem_cons.mp horder
        obtain ⟨hlastms, hothersms⟩ := List.forall_mem_cons.mp hms
        have hu := ih (t := ⟨.header, last⟩) ⟨hlast, hlastms⟩ hu
        exact .tables (List.forall_mem_cons.mpr ⟨hu.inOrder, hothers⟩)
          (List.forall_mem_cons.mpr ⟨hu.members, hothersms⟩)
    · rename_i origin ms hk
      split at hd
      · cases hd
      · refine hput (fun n hn => ?_) hd
        obtain ⟨u, hu, rfl⟩ := Option.map_eq_some_iff.mp hn
        cases h.lookup hk with
        | table _ horder hms => exact (ih (t := ⟨origin, ms⟩) ⟨horder, hms⟩ hu).toNode

theorem Ordered.openTable? (h : t.Ordered) (ho : openTable? k t = some t') : t'.Ordered := by
  unfold Table.openTable? at ho
  split at ho
  · obtain rfl := Option.some.inj ho
    exact h.insert k (ordered_nil .header).toNode
  · rename_i ms hk
    obtain rfl := Option.some.inj ho
    cases h.lookup hk with
    | table _ horder hms => exact h.insert k (.table .header horder hms)
  · cases ho

theorem Ordered.openItem? (h : t.Ordered) (ho : openItem? k t = some t') : t'.Ordered := by
  unfold Table.openItem? at ho
  split at ho
  · obtain rfl := Option.some.inj ho
    exact h.insert k (.tables (by simp [InOrder]) (by simp))
  · rename_i items hk
    obtain rfl := Option.some.inj ho
    cases h.lookup hk with
    | tables horder hms =>
      exact h.insert k (.tables (List.forall_mem_cons.mpr ⟨.nil, horder⟩)
        (List.forall_mem_cons.mpr ⟨by simp, hms⟩))
  · cases ho

theorem Ordered.assign? (h : t.Ordered) {path : List String} (hv : v.Ordered)
    (ha : assign? path v t = some t') : t'.Ordered := by
  unfold Table.assign? at ha
  split at ha
  · cases ha
  · refine h.descend true _ (fun {u u'} hu hadd => ?_) ha
    unfold add? at hadd
    split at hadd
    · obtain rfl := Option.some.inj hadd
      exact hu.insert _ (.value hv)
    · cases hadd

theorem ordered_ofAssignments? {as : List (List String × Value)} (has : ∀ a ∈ as, a.2.Ordered)
    (h : ofAssignments? as = some t) : t.Ordered :=
  foldlM_keeps (fun a ha {_ _} hu hadd => hu.assign? (has a ha) hadd) (ordered_nil _) h

end Table

/-! ## Values that are read -/

namespace Number

variable {r : Value × List Char}

theorem ordered_of_integer? {n : Int} (h : integer? n = some v) : v.Ordered := by
  unfold integer? at h
  split at h
  · exact Option.some.inj h ▸ .leaf fun _ => Value.noConfusion
  · cases h

theorem ordered_of_based? {base : Nat} (h : based? base cs = some r) : r.1.Ordered := by
  obtain ⟨⟨ds, rest⟩, -, h⟩ := Option.bind_eq_some_iff.mp h
  obtain ⟨v, hv, h⟩ := Option.bind_eq_some_iff.mp h
  exact Option.some.inj h ▸ ordered_of_integer? hv

theorem ordered_of_decimal? {sign : List Char} (h : decimal? sign cs = some r) : r.1.Ordered := by
  obtain ⟨⟨whole, cs⟩, -, h⟩ := Option.bind_eq_some_iff.mp h
  obtain ⟨⟨fraction, cs⟩, -, h⟩ := Option.bind_eq_some_iff.mp h
  obtain ⟨⟨e, rest⟩, -, h⟩ := Option.bind_eq_some_iff.mp h
  dsimp only at h
  split at h
  · obtain ⟨v, hv, h⟩ := Option.bind_eq_some_iff.mp h
    exact Option.some.inj h ▸ ordered_of_integer? hv
  · split at h
    · exact Option.some.inj h ▸ .leaf fun _ => Value.noConfusion
    · cases h

theorem ordered_of_unsigned? {sign : List Char} (h : unsigned? sign cs = some r) :
    r.1.Ordered := by
  unfold unsigned? at h
  split at h
  · exact Option.some.inj h ▸ .leaf fun _ => Value.noConfusion
  · exact Option.some.inj h ▸ .leaf fun _ => Value.noConfusion
  · exact ordered_of_decimal? h

/-- A number, a date or a time. -/
theorem ordered_of_read? (h : read? cs = some r) : r.1.Ordered := by
  unfold read? at h
  split at h
  · cases h
  · exact Option.some.inj h ▸ Value.ordered_date _
  · split at h
    · exact ordered_of_unsigned? h
    · exact ordered_of_unsigned? h
    · exact ordered_of_based? h
    · exact ordered_of_based? h
    · exact ordered_of_based? h
    · exact ordered_of_unsigned? h

end Number

variable {value? : List Char → Option (Value × List Char)}

theorem ordered_of_keyValue? {r : (List String × Value) × List Char}
    (hv : ∀ {cs r}, value? cs = some r → r.1.Ordered) (h : keyValue? value? cs = some r) :
    r.1.2.Ordered := by
  obtain ⟨⟨path, cs⟩, -, h⟩ := Option.bind_eq_some_iff.mp h
  dsimp only at h
  split at h
  · obtain ⟨⟨v, rest⟩, hvalue, h⟩ := Option.bind_eq_some_iff.mp h
    exact Option.some.inj h ▸ hv hvalue
  · cases h

theorem ordered_of_members? {n : Nat} {r : List (List String × Value) × List Char}
    (hv : ∀ {cs r}, value? cs = some r → r.1.Ordered) (h : members? value? n cs = some r) :
    ∀ m ∈ r.1, m.2.Ordered := by
  induction n generalizing cs r with
  | zero => cases h
  | succ n ih =>
    obtain ⟨⟨m, cs⟩, hm, h⟩ := Option.bind_eq_some_iff.mp h
    have hm := ordered_of_keyValue? hv hm
    dsimp only at h
    split at h
    · obtain ⟨⟨ms, rest⟩, hms, h⟩ := Option.bind_eq_some_iff.mp h
      exact Option.some.inj h ▸ List.forall_mem_cons.mpr ⟨hm, ih hms⟩
    · exact Option.some.inj h ▸ List.forall_mem_singleton.mpr hm
    · cases h

theorem ordered_of_braces? {r : Value × List Char}
    (hv : ∀ {cs r}, value? cs = some r → r.1.Ordered) (h : braces? value? cs = some r) :
    r.1.Ordered := by
  unfold braces? at h
  split at h
  · exact Option.some.inj h ▸ .table .nil (by simp)
  · obtain ⟨⟨ms, rest⟩, hms, h⟩ := Option.bind_eq_some_iff.mp h
    obtain ⟨t, ht, h⟩ := Option.bind_eq_some_iff.mp h
    exact Option.some.inj h ▸ (Table.ordered_ofAssignments? (ordered_of_members? hv hms) ht).toValue

theorem ordered_of_value? {n : Nat} {r : Value × List Char} (h : Toml.value? n cs = some r) :
    r.1.Ordered := by
  induction n using Nat.strongRecOn generalizing cs r with
  | ind n ih =>
    unfold Toml.value? at h
    split at h
    · exact Value.ordered_of_map (fun _ _ => Value.noConfusion) h
    · exact ordered_of_braces? (ih _ (Nat.lt_succ_self _)) h
    · exact Option.some.inj h ▸ .leaf fun _ => Value.noConfusion
    · exact Option.some.inj h ▸ .leaf fun _ => Value.noConfusion
    · exact Value.ordered_of_map (fun _ _ => Value.noConfusion) h
    · exact Value.ordered_of_map (fun _ _ => Value.noConfusion) h
    · exact Number.ordered_of_read? h

/-! ## Texts -/

/-- A value that a statement assigns has its tables in order. -/
def Statement.Ordered : Statement → Prop
  | .assign _ v => v.Ordered
  | _ => True

namespace Statement

variable {s : Statement} {ss : List Statement}

theorem ordered_of_next? {r : Statement × List Char} (h : next? cs = some r) : r.1.Ordered := by
  unfold next? at h
  split at h
  · obtain ⟨⟨path, cs⟩, -, h⟩ := Option.bind_eq_some_iff.mp h
    split at h
    · obtain ⟨rest, -, h⟩ := Option.bind_eq_some_iff.mp h
      exact Option.some.inj h ▸ trivial
    · cases h
  · obtain ⟨⟨path, cs⟩, -, h⟩ := Option.bind_eq_some_iff.mp h
    split at h
    · obtain ⟨rest, -, h⟩ := Option.bind_eq_some_iff.mp h
      exact Option.some.inj h ▸ trivial
    · cases h
  · obtain ⟨⟨⟨path, v⟩, cs⟩, hkey, h⟩ := Option.bind_eq_some_iff.mp h
    obtain ⟨rest, -, h⟩ := Option.bind_eq_some_iff.mp h
    exact Option.some.inj h ▸ ordered_of_keyValue? ordered_of_value? hkey

theorem ordered_of_scanLines {n : Nat} (h : scanLines n cs = some ss) : ∀ s ∈ ss, s.Ordered := by
  induction n generalizing cs ss with
  | zero =>
    unfold scanLines at h
    split at h
    · exact Option.some.inj h ▸ by simp
    · cases h
  | succ n ih =>
    unfold scanLines at h
    split at h
    · exact Option.some.inj h ▸ by simp
    · split at h
      · obtain ⟨rest, -, h⟩ := Option.bind_eq_some_iff.mp h
        exact ih h
      · obtain ⟨⟨s, rest⟩, hs, h⟩ := Option.bind_eq_some_iff.mp h
        obtain ⟨ss, hss, h⟩ := Option.bind_eq_some_iff.mp h
        exact Option.some.inj h ▸ List.forall_mem_cons.mpr ⟨ordered_of_next? hs, ih hss⟩

end Statement

theorem Table.Ordered.runStatement {t : Table} {path : List String} {s : Statement}
    {state : Table × List String} (h : t.Ordered) (hs : s.Ordered)
    (hrun : Toml.runStatement (t, path) s = some state) : state.1.Ordered := by
  cases s with
  | header path =>
    obtain ⟨k, -, hrun⟩ := Option.bind_eq_some_iff.mp hrun
    obtain ⟨t, ht, hrun⟩ := Option.bind_eq_some_iff.mp hrun
    exact Option.some.inj hrun ▸ h.descend false _ .openTable? ht
  | item path =>
    obtain ⟨k, -, hrun⟩ := Option.bind_eq_some_iff.mp hrun
    obtain ⟨t, ht, hrun⟩ := Option.bind_eq_some_iff.mp hrun
    exact Option.some.inj hrun ▸ h.descend false _ .openItem? ht
  | assign path v =>
    obtain ⟨t, ht, hrun⟩ := Option.bind_eq_some_iff.mp hrun
    exact Option.some.inj hrun ▸ h.descend false _ (fun hu => hu.assign? hs) ht

theorem Table.ordered_ofStatements? {t : Table} {ss : List Statement} (hss : ∀ s ∈ ss, s.Ordered)
    (h : Table.ofStatements? ss = some t) : t.Ordered := by
  obtain ⟨state, hrun, rfl⟩ := Option.map_eq_some_iff.mp h
  exact foldlM_keeps (p := fun state => state.1.Ordered)
    (fun s hs {_ _} hstate hnext => hstate.runStatement (hss s hs) hnext) (ordered_nil _) hrun

/-- The value of a text has all its tables in order. -/
theorem Value.ordered_of_parse? (h : Value.parse? cs = some v) : v.Ordered := by
  obtain ⟨t, ht, rfl⟩ := Option.map_eq_some_iff.mp h
  obtain ⟨ss, hss, ht⟩ := Option.bind_eq_some_iff.mp ht
  exact (Table.ordered_ofStatements? (Statement.ordered_of_scanLines hss) ht).toValue

end AlarmKeypad.Toml
