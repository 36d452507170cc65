import AlarmKeypad.Proofs.Snapshot.Members
/-!
# Members taken one at a time

A decoder may go over the members once: it refuses a typed key that it has met before and a value that
does not suit its key, and puts members with other keys aside. What comes of that is what looking the
typed keys up among all members gives.
-/

namespace AlarmKeypad.Snapshot

open Json (Member Value)

/-- What has been taken so far: the typed members under their canonical keys, and the others. -/
structure Intake where
  typed : List Member
  other : List Member

def fits (k : String) (v : Value) : Bool :=
  match v with
  | .bool _ => k != alphaKey && k != eventKey
  | .string _ => k == alphaKey || k == eventKey
  | .null => k == eventKey
  | _ => false

namespace Intake

def empty : Intake := ⟨[], []⟩

def take (i : Intake) (m : Member) : Option Intake :=
  if isTyped m.1 then
    if (canonical m).1 ∈ i.typed.map Prod.fst then none
    else if fits (canonical m).1 m.2 then some { i with typed := i.typed ++ [canonical m] }
    else none
  else some { i with other := i.other ++ [m] }

/-- The snapshot, with defaults for the keys that were not met. -/
def snapshot (i : Intake) : Snapshot where
  flag f := i.typed.lookup f.key = some (.bool true)
  alpha := match i.typed.lookup alphaKey with
    | some (.string s) => s
    | _ => ""
  event := match i.typed.lookup eventKey with
    | some (.string s) => some s
    | _ => none
  extra := Bindings.sort (Value.sortedMembers i.other)

variable {i j : Intake} {m : Member} {ms : List Member}

theorem take_eq_some_iff : i.take m = some j ↔
    if isTyped m.1 then
      (canonical m).1 ∉ i.typed.map Prod.fst ∧ fits (canonical m).1 m.2 = true ∧
        j = ⟨i.typed ++ [canonical m], i.other⟩
    else j = ⟨i.typed, i.other ++ [m]⟩ := by
  unfold take
  split
  · split
    · simp [*]
    · split <;> simp [*, eq_comm]
  · simp [eq_comm]

theorem typedMembers_cons_of_typed (h : isTyped m.1 = true) (ms : List Member) :
    typedMembers (m :: ms) = canonical m :: typedMembers ms := by
  rw [typedMembers, List.filter_cons, if_pos h, List.map_cons]
  rfl

theorem typedMembers_cons_of_untyped (h : ¬isTyped m.1 = true) (ms : List Member) :
    typedMembers (m :: ms) = typedMembers ms := by
  rw [typedMembers, List.filter_cons, if_neg h]
  rfl

theorem untypedMembers_cons_of_typed (h : isTyped m.1 = true) (ms : List Member) :
    untypedMembers (m :: ms) = untypedMembers ms := by
  rw [untypedMembers, List.filter_cons, if_neg (by simp [h])]
  rfl

theorem untypedMembers_cons_of_untyped (h : ¬isTyped m.1 = true) (ms : List Member) :
    untypedMembers (m :: ms) = m :: untypedMembers ms := by
  rw [untypedMembers, List.filter_cons, if_pos (by simp [h])]
  rfl

/-- All members are taken if no typed key is met twice and every value suits its key. -/
theorem run_eq_some_iff (hi : (i.typed.map Prod.fst).Nodup) : ms.foldlM take i = some j ↔
    ((i.typed ++ typedMembers ms).map Prod.fst).Nodup ∧
      (∀ m ∈ typedMembers ms, fits m.1 m.2 = true) ∧
      j = ⟨i.typed ++ typedMembers ms, i.other ++ untypedMembers ms⟩ := by
  induction ms generalizing i with
  | nil =>
    have hnone : typedMembers [] = [] ∧ untypedMembers [] = [] := ⟨rfl, rfl⟩
    simp only [List.foldlM_nil, hnone, List.append_nil, hi, List.not_mem_nil, false_implies,
      implies_true, true_and]
    exact Option.some_inj.trans eq_comm
  | cons m ms ih =>
    rw [List.foldlM_cons, Option.bind_eq_bind, Option.bind_eq_some_iff]
    by_cases hm : isTyped m.1 = true
    · -- the key is new just if it is not among those that were met
      have hnodup : ((i.typed ++ [canonical m]).map Prod.fst).Nodup ↔
          (canonical m).1 ∉ i.typed.map Prod.fst := by
        rw [List.map_append, List.map_singleton, List.nodup_append_comm, List.singleton_append,
          List.nodup_cons]
        exact and_iff_left hi
      simp only [take_eq_some_iff, if_pos hm, typedMembers_cons_of_typed hm,
        untypedMembers_cons_of_typed hm, List.forall_mem_cons]
      have happend : i.typed ++ canonical m :: typedMembers ms =
          i.typed ++ [canonical m] ++ typedMembers ms := List.append_cons ..
      rw [happend]
      constructor
      · rintro ⟨k, ⟨hnew, hfits, rfl⟩, hrun⟩
        obtain ⟨hkeys, hall, rfl⟩ := (ih (hnodup.mpr hnew)).mp hrun
        exact ⟨hkeys, ⟨hfits, hall⟩, rfl⟩
      · rintro ⟨hkeys, ⟨hfits, hall⟩, rfl⟩
        have hfront : ((i.typed ++ [canonical m]).map Prod.fst).Nodup := by
          rw [List.map_append] at hkeys
          exact hkeys.of_append_left
        exact ⟨_, ⟨hnodup.mp hfront, hfits, rfl⟩, (ih hfront).mpr ⟨hkeys, hall, rfl⟩⟩
    · simp only [take_eq_some_iff, if_neg hm, typedMembers_cons_of_untyped hm,
        untypedMembers_cons_of_untyped hm, exists_eq_left]
      have happend : i.other ++ m :: untypedMembers ms = i.other ++ [m] ++ untypedMembers ms :=
        List.append_cons ..
      rw [happend]
      exact ih hi

variable {typed other : List Member} {f : Flag} {v : Value} {b : Bool} {t : String}

theorem fits_flag_iff : fits f.key v = true ↔ ∃ b, v = .bool b := by
  have hkeys : f.key ≠ alphaKey ∧ f.key ≠ eventKey := by cases f <;> decide
  cases v <;> simp [fits, hkeys]

theorem fits_alpha_iff : fits alphaKey v = true ↔ ∃ t, v = .string t := by
  have hkeys : alphaKey ≠ eventKey := by decide
  cases v <;> simp [fits, hkeys]

theorem fits_event_iff : fits eventKey v = true ↔ v = .null ∨ ∃ t, v = .string t := by
  cases v <;> simp [fits]

theorem flag_of_readFlag? (h : readFlag? typed f = some b) : (snapshot ⟨typed, other⟩).flag f = b := by
  unfold readFlag? at h
  split at h <;> cases h <;> simp [snapshot, *]

theorem alpha_of_readAlpha? (h : readAlpha? typed = some t) :
    (snapshot ⟨typed, other⟩).alpha = t := by
  unfold readAlpha? at h
  split at h <;> cases h <;> simp [snapshot, *]

theorem event_of_readEvent? {e : Option String} (h : readEvent? typed = some e) :
    (snapshot ⟨typed, other⟩).event = e := by
  unfold readEvent? at h
  split at h <;> cases h <;> simp [snapshot, *]

/-- Every value suits its key just if every field can be read. -/
theorem fits_iff (hn : (typed.map Prod.fst).Nodup) (hk : ∀ m ∈ typed, m.1 ∈ typedKeys) :
    (∀ m ∈ typed, fits m.1 m.2 = true) ↔ (∀ f, (readFlag? typed f).isSome = true) ∧
      (readAlpha? typed).isSome = true ∧ (readEvent? typed).isSome = true := by
  constructor
  · intro h
    have hfits {k : String} {v : Value} (hl : typed.lookup k = some v) : fits k v = true :=
      h (k, v) (Bindings.mem_of_lookup hl)
    refine ⟨fun f => ?_, ?_, ?_⟩
    · unfold readFlag?
      cases hl : typed.lookup f.key with
      | none => rfl
      | some v =>
        obtain ⟨b, rfl⟩ := fits_flag_iff.mp (hfits hl)
        rfl
    · unfold readAlpha?
      cases hl : typed.lookup alphaKey with
      | none => rfl
      | some v =>
        obtain ⟨t, rfl⟩ := fits_alpha_iff.mp (hfits hl)
        rfl
    · unfold readEvent?
      cases hl : typed.lookup eventKey with
      | none => rfl
      | some v => obtain rfl | ⟨t, rfl⟩ := fits_event_iff.mp (hfits hl) <;> rfl
  · rintro ⟨hflags, halpha, hevent⟩ ⟨k, v⟩ hm
    have hl : typed.lookup k = some v := (Bindings.lookup_eq_some_iff_mem hn).mpr hm
    have hkey := hk _ hm
    simp only [typedKeys, List.mem_append, List.mem_map, List.mem_cons, List.not_mem_nil,
      or_false] at hkey
    rcases hkey with ⟨f, -, rfl⟩ | rfl | rfl
    · have hread := hflags f
      rw [readFlag?, hl] at hread
      cases v <;> first | exact fits_flag_iff.mpr ⟨_, rfl⟩ | cases hread
    · rw [readAlpha?, hl] at halpha
      cases v <;> first | exact fits_alpha_iff.mpr ⟨_, rfl⟩ | cases halpha
    · rw [readEvent?, hl] at hevent
      cases v <;> first
        | exact fits_event_iff.mpr (.inl rfl)
        | exact fits_event_iff.mpr (.inr ⟨_, rfl⟩)
        | cases hevent

end Intake

theorem mem_typedKeys_of_mem_typedMembers {members : List Member} {m : Member}
    (h : m ∈ typedMembers members) : m.1 ∈ typedKeys := by
  rw [typedMembers] at h
  obtain ⟨x, hx, rfl⟩ := List.mem_map.mp h
  exact List.contains_iff_mem.mp (List.mem_filter.mp hx).2

/-- Going over the members once gives what looking the typed keys up gives. -/
theorem ofMembers?_eq_run (members : List Member) :
    ofMembers? members = (members.foldlM Intake.take .empty).map Intake.snapshot := by
  have hk : ∀ m ∈ typedMembers members, m.1 ∈ typedKeys :=
    fun m hm => mem_typedKeys_of_mem_typedMembers hm
  have hrun (j : Intake) : members.foldlM Intake.take .empty = some j ↔
      ((typedMembers members).map Prod.fst).Nodup ∧
        (∀ m ∈ typedMembers members, fits m.1 m.2 = true) ∧
        j = ⟨typedMembers members, untypedMembers members⟩ :=
    Intake.run_eq_some_iff (i := .empty) .nil
  ext s
  simp only [Option.map_eq_some_iff, hrun, ofMembers?_eq_some_iff]
  constructor
  · rintro ⟨hn, hflags, halpha, hevent, hextra⟩
    have hfits := (Intake.fits_iff hn hk).mpr
      ⟨fun f => by rw [hflags, Option.isSome_some], by rw [halpha, Option.isSome_some],
        by rw [hevent, Option.isSome_some]⟩
    refine ⟨⟨typedMembers members, untypedMembers members⟩, ⟨hn, hfits, rfl⟩, ?_⟩
    exact (eq_iff _ _).mpr ⟨fun f _ => Intake.flag_of_readFlag? (hflags f),
      Intake.alpha_of_readAlpha? halpha, Intake.event_of_readEvent? hevent, hextra.symm⟩
  · rintro ⟨j, ⟨hn, hfits, rfl⟩, rfl⟩
    obtain ⟨hflags, halpha, hevent⟩ := (Intake.fits_iff hn hk).mp hfits
    refine ⟨hn, fun f => ?_, ?_, ?_, rfl⟩
    · obtain ⟨b, hb⟩ := Option.isSome_iff_exists.mp (hflags f)
      rw [hb, Intake.flag_of_readFlag? hb]
    · obtain ⟨t, ht⟩ := Option.isSome_iff_exists.mp halpha
      rw [ht, Intake.alpha_of_readAlpha? ht]
    · obtain ⟨e, he⟩ := Option.isSome_iff_exists.mp hevent
      rw [he, Intake.event_of_readEvent? he]

end AlarmKeypad.Snapshot
