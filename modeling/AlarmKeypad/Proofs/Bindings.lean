import AlarmKeypad.Bindings
import Mathlib.Data.List.Induction
import Mathlib.Data.List.Nodup

namespace AlarmKeypad.Bindings

variable {α : Type}

/-- The names go up; so none occurs twice. -/
def InOrder (bs : List (String × α)) : Prop := bs.Pairwise fun a b => a.1 < b.1

theorem lt_of_not_lt {a b : String} (hne : a ≠ b) (h : ¬a < b) : b < a :=
  String.not_le.mp fun hle => hne (String.le_antisymm hle (String.not_lt.mp h))

theorem eq_or_mem_of_mem_insert {k : String} {v : α} {x : String × α} {bs : List (String × α)}
    (h : x ∈ insert k v bs) : x = (k, v) ∨ x ∈ bs := by
  induction bs with
  | nil => exact .inl (List.mem_singleton.mp h)
  | cons b bs ih =>
    obtain ⟨l, w⟩ := b
    unfold insert at h
    split at h
    · exact (List.mem_cons.mp h).imp_right (List.mem_cons_of_mem _)
    · split at h
      · exact List.mem_cons.mp h
      · rcases List.mem_cons.mp h with rfl | h
        · exact .inr List.mem_cons_self
        · exact (ih h).imp_right (List.mem_cons_of_mem _)

theorem inOrder_insert {bs : List (String × α)} (h : InOrder bs) (k : String) (v : α) :
    InOrder (insert k v bs) := by
  induction bs with
  | nil => exact List.pairwise_singleton _ _
  | cons b bs ih =>
    obtain ⟨l, w⟩ := b
    obtain ⟨hl, hbs⟩ := List.pairwise_cons.mp h
    unfold insert
    split
    · rename_i heq
      subst heq
      exact List.pairwise_cons.mpr ⟨hl, hbs⟩
    · rename_i hne
      split
      · rename_i hlt
        refine List.pairwise_cons.mpr ⟨fun x hx => ?_, h⟩
        rcases List.mem_cons.mp hx with rfl | hx
        · exact hlt
        · exact String.lt_trans hlt (hl x hx)
      · rename_i hlt
        refine List.pairwise_cons.mpr ⟨fun x hx => ?_, ih hbs⟩
        rcases eq_or_mem_of_mem_insert hx with rfl | hx
        · exact lt_of_not_lt hne hlt
        · exact hl x hx

/-- A name behind all others comes last. -/
theorem insert_eq_append {k : String} {bs : List (String × α)} (h : ∀ b ∈ bs, b.1 < k) (v : α) :
    insert k v bs = bs ++ [(k, v)] := by
  induction bs with
  | nil => rfl
  | cons b bs ih =>
    obtain ⟨l, w⟩ := b
    have hlt : l < k := h _ List.mem_cons_self
    have hne : ¬k = l := fun heq => String.lt_irrefl l (heq ▸ hlt)
    rw [insert, if_neg hne, if_neg (String.lt_asymm hlt),
      ih fun b hb => h b (List.mem_cons_of_mem _ hb)]
    rfl

theorem inOrder_sort (bs : List (String × α)) : InOrder (sort bs) := by
  suffices hacc : ∀ acc : List (String × α), InOrder acc →
      InOrder (bs.foldl (fun acc b => insert b.1 b.2 acc) acc) from hacc [] .nil
  induction bs with
  | nil => exact fun acc h => h
  | cons b bs ih => exact fun acc h => ih _ (inOrder_insert h b.1 b.2)

theorem mem_of_mem_sort {x : String × α} {bs : List (String × α)} (h : x ∈ sort bs) : x ∈ bs := by
  suffices hacc : ∀ acc : List (String × α),
      x ∈ bs.foldl (fun acc b => insert b.1 b.2 acc) acc → x ∈ acc ∨ x ∈ bs from
    (hacc [] h).resolve_left List.not_mem_nil
  clear h
  induction bs with
  | nil => exact fun acc h => .inl h
  | cons b bs ih =>
    intro acc h
    rcases ih _ h with h | h
    · rcases eq_or_mem_of_mem_insert h with rfl | h
      · exact .inr List.mem_cons_self
      · exact .inl h
    · exact .inr (List.mem_cons_of_mem _ h)

theorem sort_eq_self {bs : List (String × α)} (h : InOrder bs) : sort bs = bs := by
  suffices hacc : ∀ acc : List (String × α), InOrder (acc ++ bs) →
      bs.foldl (fun acc b => insert b.1 b.2 acc) acc = acc ++ bs from hacc [] h
  clear h
  induction bs with
  | nil => exact fun acc _ => (List.append_nil acc).symm
  | cons b bs ih =>
    intro acc h
    have hlast : insert b.1 b.2 acc = acc ++ [b] :=
      insert_eq_append (fun a ha => (List.pairwise_append.mp h).2.2 a ha b List.mem_cons_self) _
    rw [List.append_cons] at h ⊢
    change List.foldl _ (insert b.1 b.2 acc) bs = _
    rw [hlast]
    exact ih _ h

theorem map_insert {β : Type} (f : α → β) (k : String) (v : α) (bs : List (String × α)) :
    (insert k v bs).map (fun b => (b.1, f b.2)) =
      insert k (f v) (bs.map fun b => (b.1, f b.2)) := by
  induction bs with
  | nil => rfl
  | cons b bs ih =>
    rw [List.map_cons, insert, insert]
    split
    · rfl
    · split
      · rfl
      · rw [List.map_cons, ih]

theorem map_sort {β : Type} (f : α → β) (bs : List (String × α)) :
    (sort bs).map (fun b => (b.1, f b.2)) = sort (bs.map fun b => (b.1, f b.2)) := by
  suffices hacc : ∀ acc : List (String × α),
      (bs.foldl (fun acc b => insert b.1 b.2 acc) acc).map (fun b => (b.1, f b.2)) =
        (bs.map fun b => (b.1, f b.2)).foldl (fun acc b => insert b.1 b.2 acc)
          (acc.map fun b => (b.1, f b.2)) from hacc []
  induction bs with
  | nil => exact fun acc => rfl
  | cons b bs ih =>
    intro acc
    rw [List.foldl_cons, ih, map_insert, List.map_cons, List.foldl_cons]

theorem InOrder.map {β : Type} {bs : List (String × α)} (h : InOrder bs) (f : String × α → β) :
    InOrder (bs.map fun b => (b.1, f b)) :=
  List.pairwise_map.mpr h

theorem InOrder.nodup {bs : List (String × α)} (h : InOrder bs) : (bs.map Prod.fst).Nodup :=
  List.pairwise_map.mpr (h.imp String.ne_of_lt)

theorem sort_append (bs : List (String × α)) (k : String) (v : α) :
    sort (bs ++ [(k, v)]) = insert k v (sort bs) := by
  rw [sort, List.foldl_append]
  rfl

theorem mem_of_lookup {k : String} {v : α} {bs : List (String × α)} (h : bs.lookup k = some v) :
    (k, v) ∈ bs := by
  obtain ⟨front, back, rfl, -⟩ := List.lookup_eq_some_iff.mp h
  exact List.mem_append_right _ List.mem_cons_self

theorem lookup_eq_none {k : String} {bs : List (String × α)} (h : ∀ b ∈ bs, k ≠ b.1) :
    bs.lookup k = none :=
  List.lookup_eq_none_iff.mpr fun b hb => bne_iff_ne.mpr (h b hb)

theorem lookup_cons_of_ne {k l : String} (h : k ≠ l) (v : α) (bs : List (String × α)) :
    ((l, v) :: bs).lookup k = bs.lookup k := by
  rw [List.lookup_cons, beq_false_of_ne h]

theorem lookup_map {β : Type} (f : α → β) (k : String) (bs : List (String × α)) :
    (bs.map fun b => (b.1, f b.2)).lookup k = (bs.lookup k).map f := by
  induction bs with
  | nil => rfl
  | cons b bs ih =>
    by_cases hk : k = b.1
    · rw [hk, List.map_cons, List.lookup_cons_self, List.lookup_cons_self]
      rfl
    · rw [List.map_cons, lookup_cons_of_ne hk, lookup_cons_of_ne hk, ih]

theorem lookup_filter (p : String → Bool) (k : String) (bs : List (String × α)) :
    (bs.filter fun b => p b.1).lookup k = if p k then bs.lookup k else none := by
  induction bs with
  | nil => cases p k <;> rfl
  | cons b bs ih =>
    by_cases hb : p b.1 = true
    · rw [List.filter_cons, if_pos hb]
      by_cases hk : k = b.1
      · rw [hk, List.lookup_cons_self, List.lookup_cons_self, if_pos hb]
      · rw [lookup_cons_of_ne hk, lookup_cons_of_ne hk, ih]
    · rw [List.filter_cons, if_neg hb, ih]
      split
      · rename_i hk
        have hne : k ≠ b.1 := by
          rintro rfl
          exact hb hk
        exact (lookup_cons_of_ne hne b.2 bs).symm
      · rfl

@[simp] theorem lookup_insert_self (k : String) (v : α) (bs : List (String × α)) :
    (insert k v bs).lookup k = some v := by
  induction bs with
  | nil => exact List.lookup_cons_self
  | cons b bs ih =>
    obtain ⟨l, w⟩ := b
    unfold insert
    split
    · exact List.lookup_cons_self
    · rename_i hne
      split
      · exact List.lookup_cons_self
      · rw [lookup_cons_of_ne hne, ih]

theorem lookup_insert_of_ne {k l : String} (h : k ≠ l) (v : α) (bs : List (String × α)) :
    (insert l v bs).lookup k = bs.lookup k := by
  induction bs with
  | nil => exact lookup_cons_of_ne h v []
  | cons b bs ih =>
    obtain ⟨m, w⟩ := b
    unfold insert
    split
    · rename_i heq
      subst heq
      rw [lookup_cons_of_ne h, lookup_cons_of_ne h]
    · split
      · exact lookup_cons_of_ne h v _
      · rw [List.lookup_cons, List.lookup_cons, ih]

theorem insert_insert (k : String) (v w : α) (bs : List (String × α)) :
    insert k v (insert k w bs) = insert k v bs := by
  have hhead (x y : α) (bs : List (String × α)) : insert k x ((k, y) :: bs) = (k, x) :: bs :=
    if_pos rfl
  induction bs with
  | nil => exact hhead v w []
  | cons b bs ih =>
    obtain ⟨l, x⟩ := b
    by_cases heq : k = l
    · subst heq
      rw [hhead, hhead, hhead]
    · by_cases hlt : k < l
      · rw [insert, insert, if_neg heq, if_neg heq, if_pos hlt, if_pos hlt, hhead]
      · rw [insert, insert, if_neg heq, if_neg heq, if_neg hlt, if_neg hlt, insert, if_neg heq,
          if_neg hlt, ih]

theorem lookup_eq_some_iff_mem {bs : List (String × α)} (h : (bs.map Prod.fst).Nodup) {k : String}
    {v : α} : bs.lookup k = some v ↔ (k, v) ∈ bs := by
  refine ⟨mem_of_lookup, fun hv => ?_⟩
  cases hl : bs.lookup k with
  | none =>
    have hne := List.lookup_eq_none_iff.mp hl (k, v) hv
    exact absurd hne (by simp)
  | some w =>
    have heq := List.inj_on_of_nodup_map h (mem_of_lookup hl) hv rfl
    rw [(Prod.mk.inj heq).2]

/-- Where no name occurs twice, the order makes no difference. -/
theorem lookup_perm {bs cs : List (String × α)} (hp : bs.Perm cs) (h : (bs.map Prod.fst).Nodup)
    (k : String) : bs.lookup k = cs.lookup k := by
  have hc : (cs.map Prod.fst).Nodup := (hp.map Prod.fst).nodup_iff.mp h
  ext v
  rw [lookup_eq_some_iff_mem h, lookup_eq_some_iff_mem hc, hp.mem_iff]

/-- Of several bindings of one name, sorting keeps the last. -/
theorem lookup_sort_eq_reverse (bs : List (String × α)) (k : String) :
    (sort bs).lookup k = bs.reverse.lookup k := by
  induction bs using List.reverseRecOn with
  | nil => rfl
  | append_singleton bs b ih =>
    obtain ⟨l, v⟩ := b
    rw [sort_append, List.reverse_append, List.reverse_singleton, List.singleton_append]
    by_cases hk : k = l
    · rw [hk, lookup_insert_self, List.lookup_cons_self]
    · rw [lookup_insert_of_ne hk, lookup_cons_of_ne hk, ih]

/-- Where no name occurs twice, sorting leaves every name bound as it was. -/
theorem lookup_sort {bs : List (String × α)} (h : (bs.map Prod.fst).Nodup) (k : String) :
    (sort bs).lookup k = bs.lookup k :=
  (lookup_sort_eq_reverse bs k).trans (lookup_perm bs.reverse_perm.symm h k).symm

/-- Two lists in order that bind the same names to the same values are equal. -/
theorem InOrder.ext {bs cs : List (String × α)} (hb : InOrder bs) (hc : InOrder cs)
    (h : ∀ k, bs.lookup k = cs.lookup k) : bs = cs := by
  have hperm : bs.Perm cs := by
    refine (List.perm_ext_iff_of_nodup (.of_map _ hb.nodup) (.of_map _ hc.nodup)).mpr fun b => ?_
    rw [← lookup_eq_some_iff_mem hb.nodup, ← lookup_eq_some_iff_mem hc.nodup, h]
  exact hperm.eq_of_pairwise (fun a b _ _ hab hba => absurd hba (String.lt_asymm hab)) hb hc

/-- A list in order that differs from another at one name is the other with that name bound. -/
theorem InOrder.eq_insert {bs cs : List (String × α)} (hb : InOrder bs) (hc : InOrder cs)
    {k : String} {v : α} (hk : cs.lookup k = some v)
    (h : ∀ l, l ≠ k → cs.lookup l = bs.lookup l) : cs = insert k v bs := by
  refine hc.ext (inOrder_insert hb k v) fun l => ?_
  by_cases hl : l = k
  · rw [hl, hk, lookup_insert_self]
  · rw [h l hl, lookup_insert_of_ne hl]

/-- Where no name occurs twice, sorting forgets the order. -/
theorem sort_eq_of_perm {bs cs : List (String × α)} (hp : bs.Perm cs)
    (h : (bs.map Prod.fst).Nodup) : sort bs = sort cs :=
  (inOrder_sort bs).ext (inOrder_sort cs) fun k => by
    rw [lookup_sort h, lookup_sort ((hp.map Prod.fst).nodup_iff.mp h), lookup_perm hp h]

theorem InOrder.lookup_tail {b : String × α} {bs : List (String × α)} (h : InOrder (b :: bs)) :
    bs.lookup b.1 = none :=
  lookup_eq_none fun c hc heq =>
    String.lt_irrefl b.1 (heq ▸ (List.pairwise_cons.mp h).1 c hc)

/-- Two lists in order, each of which binds the first name of the other, begin with one name. -/
theorem InOrder.head_eq {β : Type} {k l : String} {v x : α} {w y : β} {bs : List (String × α)}
    {cs : List (String × β)} (hb : InOrder ((k, v) :: bs)) (hc : InOrder ((l, w) :: cs))
    (hk : ((l, w) :: cs).lookup k = some y) (hl : ((k, v) :: bs).lookup l = some x) : k = l := by
  refine Decidable.byContradiction fun hne => ?_
  -- otherwise each of the two names would stand behind the other
  rw [lookup_cons_of_ne hne] at hk
  rw [lookup_cons_of_ne (Ne.symm hne)] at hl
  exact String.lt_asymm ((List.pairwise_cons.mp hc).1 _ (mem_of_lookup hk))
    ((List.pairwise_cons.mp hb).1 _ (mem_of_lookup hl))

theorem InOrder.tail {b : String × α} {bs : List (String × α)} (h : InOrder (b :: bs)) :
    InOrder bs := (List.pairwise_cons.mp h).2

end AlarmKeypad.Bindings
