import AlarmKeypad.Proofs.Toml.Order

namespace AlarmKeypad.Toml

open Bindings (insert sort)

variable {top fields : List (String × Value)} {base fs P R : List (String × Node)} {k s : String}

namespace Table

theorem descend_table {origin o : Origin} {f : Table → Option Table} {path : List String}
    (h : R.lookup k = some (.table o P)) :
    descend false f (k :: path) ⟨origin, R⟩ =
      (descend false f path ⟨o, P⟩).map fun t => ⟨origin, insert k t.toNode R⟩ := by
  rw [descend]
  simp only [h, Bool.false_and, Bool.false_eq_true, if_false, Option.bind_eq_bind]
  cases descend false f path ⟨o, P⟩ <;> rfl

theorem descend_new {origin : Origin} {f : Table → Option Table} {path : List String}
    (h : R.lookup k = none) :
    descend false f (k :: path) ⟨origin, R⟩ =
      (descend false f path ⟨.implied, []⟩).map fun t => ⟨origin, insert k t.toNode R⟩ := by
  rw [descend]
  simp only [h, Bool.false_eq_true, if_false, Option.bind_eq_bind]
  cases descend false f path ⟨.implied, []⟩ <;> rfl

theorem assign?_header (h : fs.lookup k = none) (v : Value) :
    assign? [k] v ⟨.header, fs⟩ = some ⟨.header, insert k (.value v) fs⟩ := by
  exact if_pos ⟨rfl, Option.isNone_iff_eq_none.mpr h⟩

end Table

def assignments (fields : List (String × Value)) : List Statement :=
  fields.map fun f => .assign [f.1] f.2

def sectionStatements (s : String) (x : String × List (String × Value)) : List Statement :=
  .header [s, x.1] :: assignments x.2

def fieldNodes (fields : List (String × Value)) : List (String × Node) :=
  sort (fields.map fun f => (f.1, .value f.2))

def sectionNode (x : String × List (String × Value)) : String × Node :=
  (x.1, .table .header (fieldNodes x.2))

/-- The root with one section under `s` that has come to the members `fs`. -/
def rootWith (base P : List (String × Node)) (s name : String) (fs : List (String × Node)) :
    Table :=
  ⟨.header, insert s (.table .implied (insert name (.table .header fs) P)) base⟩

theorem runStatement_header {path : List String} {name : String}
    (hR : R.lookup s = none ∧ P = [] ∨ R.lookup s = some (.table .implied P))
    (hP : P.lookup name = none) :
    runStatement (⟨.header, R⟩, path) (.header [s, name]) =
      some (rootWith R P s name [], [s, name]) := by
  have hopen : Table.openTable? name ⟨.implied, P⟩ =
      some ⟨.implied, insert name (.table .header []) P⟩ := by
    simp only [Table.openTable?, hP]
  have hdescend : Table.descend false (Table.openTable? name) [s] ⟨.header, R⟩ =
      some (rootWith R P s name []) := by
    rcases hR with ⟨hR, rfl⟩ | hR
    · rw [Table.descend_new hR, Table.descend, hopen]
      rfl
    · rw [Table.descend_table hR, Table.descend, hopen]
      rfl
  change (Table.descend false (Table.openTable? name) [s] ⟨.header, R⟩).bind _ = _
  rw [hdescend]
  rfl

theorem runStatement_field {name : String} (h : fs.lookup k = none) (v : Value) :
    runStatement (rootWith base P s name fs, [s, name]) (.assign [k] v) =
      some (rootWith base P s name (insert k (.value v) fs), [s, name]) := by
  have hdescend : Table.descend false (Table.assign? [k] v) [s, name] (rootWith base P s name fs) =
      some (rootWith base P s name (insert k (.value v) fs)) := by
    rw [rootWith, Table.descend_table (Bindings.lookup_insert_self ..),
      Table.descend_table (Bindings.lookup_insert_self ..), Table.descend,
      Table.assign?_header h]
    simp only [Option.map_some, Table.toNode, Bindings.insert_insert, rootWith]
  change (Table.descend false (Table.assign? [k] v) [s, name] _).bind _ = _
  rw [hdescend]
  rfl

/-- Where one assignment puts a field, several put theirs. -/
theorem foldlM_assignments {place : List (String × Node) → Table} {path : List String}
    (hplace : ∀ {k v fs}, fs.lookup k = none → runStatement (place fs, path) (.assign [k] v) =
      some (place (insert k (.value v) fs), path))
    (hfields : (fields.map Prod.fst).Nodup) :
    (assignments fields).foldlM runStatement (place [], path) =
      some (place (fieldNodes fields), path) := by
  suffices hacc : ∀ fs : List (String × Node), (∀ f ∈ fields, fs.lookup f.1 = none) →
      (assignments fields).foldlM runStatement (place fs, path) =
        some (place ((fields.map fun f => (f.1, .value f.2)).foldl
          (fun acc b => insert b.1 b.2 acc) fs), path) from hacc [] fun _ _ => rfl
  induction fields with
  | nil => exact fun _ _ => rfl
  | cons f fields ih =>
    intro fs hfs
    obtain ⟨hf, hnodup⟩ := List.nodup_cons.mp hfields
    obtain ⟨hnone, hrest⟩ := List.forall_mem_cons.mp hfs
    have hstep := ih hnodup (insert f.1 (.value f.2) fs) fun g hg => by
      rw [Bindings.lookup_insert_of_ne, hrest g hg]
      exact fun heq => hf (heq ▸ List.mem_map_of_mem hg)
    change (runStatement (place fs, path) (.assign [f.1] f.2)).bind _ = _
    rw [hplace hnone]
    exact hstep

theorem foldlM_section {path : List String} {x : String × List (String × Value)}
    (hR : R.lookup s = none ∧ P = [] ∨ R.lookup s = some (.table .implied P))
    (hP : P.lookup x.1 = none) (hx : (x.2.map Prod.fst).Nodup) :
    (sectionStatements s x).foldlM runStatement (⟨.header, R⟩, path) =
      some (⟨.header, insert s (.table .implied (insert x.1 (sectionNode x).2 P)) R⟩,
        [s, x.1]) := by
  change (runStatement (⟨.header, R⟩, path) (.header [s, x.1])).bind _ = _
  rw [runStatement_header hR hP]
  exact foldlM_assignments (fun h => runStatement_field h _) hx

theorem foldlM_sections (path : List String) {x : String × List (String × Value)}
    {xs : List (String × List (String × Value))}
    (hR : R.lookup s = none ∧ P = [] ∨ R.lookup s = some (.table .implied P))
    (hP : ∀ y ∈ x :: xs, P.lookup y.1 = none) (hxs : ((x :: xs).map Prod.fst).Nodup)
    (hfields : ∀ y ∈ x :: xs, (y.2.map Prod.fst).Nodup) :
    ∃ path', ((x :: xs).flatMap (sectionStatements s)).foldlM runStatement (⟨.header, R⟩, path) =
      some (⟨.header, insert s (.table .implied (((x :: xs).map sectionNode).foldl
        (fun acc b => insert b.1 b.2 acc) P)) R⟩, path') := by
  induction xs generalizing x R P path with
  | nil =>
    refine ⟨[s, x.1], ?_⟩
    rw [List.flatMap_singleton]
    exact foldlM_section hR (hP x List.mem_cons_self) (hfields x List.mem_cons_self)
  | cons y xs ih =>
    obtain ⟨hx, hnodup⟩ := List.nodup_cons.mp hxs
    obtain ⟨hPx, hPxs⟩ := List.forall_mem_cons.mp hP
    obtain ⟨hfx, hfxs⟩ := List.forall_mem_cons.mp hfields
    have hfresh : ∀ z ∈ y :: xs, (insert x.1 (sectionNode x).2 P).lookup z.1 = none := by
      intro z hz
      rw [Bindings.lookup_insert_of_ne, hPxs z hz]
      exact fun heq => hx (heq ▸ List.mem_map_of_mem hz)
    obtain ⟨path', hrest⟩ := ih [s, x.1] (.inr (Bindings.lookup_insert_self ..)) hfresh hnodup hfxs
    refine ⟨path', ?_⟩
    rw [List.flatMap_cons, List.foldlM_append, foldlM_section hR hPx hfx]
    change List.foldlM _ _ _ = _
    rw [hrest, Bindings.insert_insert]
    rfl

/-- Fields at the top, and under `s` a table for every section. -/
def sectionsValue (top : List (String × Value)) (s : String)
    (xs : List (String × List (String × Value))) : Value :=
  .table (sort (top ++ [(s, .table (sort (xs.map fun x => (x.1, .table (sort x.2)))))]))

theorem memberValues_fieldNodes (fields : List (String × Value)) :
    Node.memberValues (fieldNodes fields) = sort fields := by
  rw [Node.memberValues_eq, fieldNodes, Bindings.map_sort, List.map_map]
  exact congrArg sort (List.map_id _)

theorem toValue_sections (origin : Origin) (xs : List (String × List (String × Value))) :
    Table.toValue ⟨.header, insert s (.table origin (sort (xs.map sectionNode)))
      (fieldNodes top)⟩ = sectionsValue top s xs := by
  have hsections : Node.memberValues (sort (xs.map sectionNode)) =
      sort (xs.map fun x => (x.1, .table (sort x.2))) := by
    rw [Node.memberValues_eq, Bindings.map_sort, List.map_map]
    refine congrArg sort (List.map_congr_left fun x _ => ?_)
    simp only [Function.comp_apply, sectionNode, Node.toValue, memberValues_fieldNodes]
  rw [Table.toValue, Table.toNode, Node.toValue, Node.memberValues_eq, Bindings.map_insert,
    ← Node.memberValues_eq, memberValues_fieldNodes, Node.toValue, hsections, sectionsValue,
    Bindings.sort_append]

theorem foldlM_top (htop : (top.map Prod.fst).Nodup) :
    (assignments top).foldlM runStatement (Table.empty, []) =
      some (⟨.header, fieldNodes top⟩, []) := by
  refine foldlM_assignments (fun {k v fs} h => ?_) htop
  change (Table.assign? [k] v ⟨.header, fs⟩).bind _ = _
  rw [Table.assign?_header h]
  rfl

theorem lookup_fieldNodes (hs : s ∉ top.map Prod.fst) : (fieldNodes top).lookup s = none := by
  refine Bindings.lookup_eq_none fun b hb heq => hs ?_
  obtain ⟨f, hf, rfl⟩ := List.mem_map.mp (Bindings.mem_of_mem_sort hb)
  exact List.mem_map.mpr ⟨f, hf, heq.symm⟩

/-- The table of fields at the top and of sections. -/
theorem ofStatements?_sections {xs : List (String × List (String × Value))}
    (htop : (top.map Prod.fst).Nodup) (hs : s ∉ top.map Prod.fst) (hne : xs ≠ [])
    (hxs : (xs.map Prod.fst).Nodup) (hfields : ∀ x ∈ xs, (x.2.map Prod.fst).Nodup) :
    (Table.ofStatements? (assignments top ++ xs.flatMap (sectionStatements s))).map
      Table.toValue = some (sectionsValue top s xs) := by
  obtain ⟨x, xs, rfl⟩ := List.exists_cons_of_ne_nil hne
  obtain ⟨path, hrun⟩ := foldlM_sections [] (P := [])
    (.inl ⟨lookup_fieldNodes hs, rfl⟩) (fun _ _ => rfl) hxs hfields
  simp only [Table.ofStatements?, List.foldlM_append, foldlM_top htop, Option.bind_eq_bind,
    Option.bind_some, hrun]
  exact congrArg some (toValue_sections .implied (x :: xs))

/-- A header alone stands for a table without sections. -/
theorem ofStatements?_no_sections (htop : (top.map Prod.fst).Nodup) (hs : s ∉ top.map Prod.fst) :
    (Table.ofStatements? (assignments top ++ [.header [s]])).map Table.toValue =
      some (sectionsValue top s []) := by
  have hopen : runStatement (⟨.header, fieldNodes top⟩, []) (.header [s]) =
      some (⟨.header, insert s (.table .header []) (fieldNodes top)⟩, [s]) := by
    have hstep : Table.openTable? s ⟨.header, fieldNodes top⟩ =
        some ⟨.header, insert s (.table .header []) (fieldNodes top)⟩ := by
      simp only [Table.openTable?, lookup_fieldNodes hs]
    change (Table.openTable? s ⟨.header, fieldNodes top⟩).bind _ = _
    rw [hstep]
    rfl
  simp only [Table.ofStatements?, List.foldlM_append, foldlM_top htop, Option.bind_eq_bind,
    Option.bind_some, List.foldlM_cons, hopen]
  exact congrArg some (toValue_sections .header [])

end AlarmKeypad.Toml
