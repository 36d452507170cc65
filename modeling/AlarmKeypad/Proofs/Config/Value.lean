import AlarmKeypad.Proofs.Config.Overlay

namespace AlarmKeypad

open Toml (Value)
open Toml.Value (overlaid read_overlaid)

namespace Profile

/-- A field with a number, where there is one. -/
def optionalField (k : String) (n : Option Nat) : List (String × Value) :=
  (n.map fun n => (k, Value.integer n)).toList

def fields (p : Profile) : List (String × Value) :=
  [("host", .string p.host), ("transport", .string p.transport.name)] ++
    optionalField "port" (p.port.map UInt16.toNat) ++
    [("partition", .integer p.partition.toNat), ("code", .integer p.code.toNat)] ++
    optionalField "heartbeat_secs" (p.heartbeatSeconds.map UInt64.toNat) ++
    optionalField "reconnect_ms" (p.reconnectMillis.map UInt64.toNat)

def toValue (p : Profile) : Value := .table (Bindings.sort p.fields)

theorem nodup_fields (p : Profile) : (p.fields.map Prod.fst).Nodup := by
  obtain ⟨_, _, _ | _, _, _, _ | _, _ | _⟩ := p <;> simp [fields, optionalField]

theorem lookup_fields (p : Profile) :
    p.fields.lookup "host" = some (.string p.host) ∧
    p.fields.lookup "transport" = some (.string p.transport.name) ∧
    p.fields.lookup "port" = p.port.map (fun n => .integer n.toNat) ∧
    p.fields.lookup "partition" = some (.integer p.partition.toNat) ∧
    p.fields.lookup "code" = some (.integer p.code.toNat) ∧
    p.fields.lookup "heartbeat_secs" = p.heartbeatSeconds.map (fun n => .integer n.toNat) ∧
    p.fields.lookup "reconnect_ms" = p.reconnectMillis.map (fun n => .integer n.toNat) := by
  obtain ⟨_, _, _ | _, _, _, _ | _, _ | _⟩ := p <;> exact ⟨rfl, rfl, rfl, rfl, rfl, rfl, rfl⟩

theorem ofFields?_eq_some_iff {p : Profile}
    {host transport port partition code heartbeat reconnect : Option Value} :
    ofFields? host transport port partition code heartbeat reconnect = some p ↔
      host.bind Value.string? = some p.host ∧ transport? transport = some p.transport ∧
      optional? (UInt16.size - 1) Nat.toUInt16 port = some p.port ∧
      counter? partition = some p.partition ∧ counter? code = some p.code ∧
      optional? (UInt64.size - 1) Nat.toUInt64 heartbeat = some p.heartbeatSeconds ∧
      optional? (UInt64.size - 1) Nat.toUInt64 reconnect = some p.reconnectMillis := by
  cases p
  simp only [ofFields?, Option.bind_eq_bind, Option.bind_eq_some_iff, Option.pure_def,
    Option.some.injEq, Profile.mk.injEq]
  constructor
  · rintro ⟨h, hh, s, hs, t, ht, po, hpo, pa, hpa, c, hc, hb, hhb, r, hr, rfl, rfl, rfl, rfl, rfl,
      rfl, rfl⟩
    exact ⟨⟨h, hh, hs⟩, ht, hpo, hpa, hc, hhb, hr⟩
  · rintro ⟨⟨h, hh, hs⟩, ht, hpo, hpa, hc, hhb, hr⟩
    exact ⟨h, hh, _, hs, _, ht, _, hpo, _, hpa, _, hc, _, hhb, _, hr, rfl, rfl, rfl, rfl, rfl, rfl,
      rfl⟩

theorem natural?_integer {max n : Nat} (h : n ≤ max) : (Value.integer n).natural? max = some n := by
  rw [Value.natural?, if_pos ⟨by omega, by omega⟩, Int.toNat_natCast]

theorem optional?_integer {α : Type} {max : Nat} (f : Nat → α) {toNat : α → Nat}
    (hmax : ∀ a, toNat a ≤ max) (hf : ∀ a, f (toNat a) = a) (n : Option α) :
    optional? max f (n.map fun n => .integer (toNat n)) = some n := by
  cases n with
  | none => rfl
  | some n => simp [optional?, natural?_integer (hmax n), hf]

theorem counter?_integer (n : UInt32) : counter? (some (.integer n.toNat)) = some n := by
  have hread : optional? (UInt32.size - 1) Nat.toUInt32 (some (.integer n.toNat)) = some (some n) :=
    optional?_integer Nat.toUInt32 (fun n => Nat.le_pred_of_lt n.toNat_lt)
      (fun n => UInt32.ofNat_toNat) (some n)
  rw [counter?, hread]
  rfl

theorem transport?_name (t : TransportKind) : transport? (some (.string t.name)) = some t := by
  cases t <;> rfl

/-- A profile reads back from its value. -/
theorem ofValue?_toValue (p : Profile) : ofValue? p.toValue = some p := by
  obtain ⟨hhost, htransport, hport, hpartition, hcode, hheartbeat, hreconnect⟩ := lookup_fields p
  rw [toValue, ofValue?]
  simp only [Bindings.lookup_sort p.nodup_fields, hhost, htransport, hport, hpartition, hcode,
    hheartbeat, hreconnect]
  exact ofFields?_eq_some_iff.mpr ⟨rfl, transport?_name _,
    optional?_integer _ (fun n => Nat.le_pred_of_lt n.toNat_lt) (fun n => UInt16.ofNat_toNat) _,
    counter?_integer _, counter?_integer _,
    optional?_integer _ (fun n => Nat.le_pred_of_lt n.toNat_lt) (fun n => UInt64.ofNat_toNat) _,
    optional?_integer _ (fun n => Nat.le_pred_of_lt n.toNat_lt) (fun n => UInt64.ofNat_toNat) _⟩

/-- A profile that was read with `e` over something is read with `e` over its own value. -/
theorem ofValue?_overlay {p : Profile} {e : Value} {x : Option Value} (he : e.Ordered)
    (h : (overlaid (some e) x).bind ofValue? = some p) :
    ofValue? (e.overlay p.toValue) = some p := by
  rcases e.table_or_leaf with ⟨ms, rfl⟩ | hleaf
  · obtain ⟨vs, hvs, hlookup⟩ := Toml.Value.exists_lookup_overlaid he.members.1 x
    have hown := ofValue?_toValue p
    rw [toValue, ofValue?] at hown
    rw [hvs, Option.bind_some, ofValue?] at h
    simp only [hlookup] at h
    obtain ⟨hhost, htransport, hport, hpartition, hcode, hheartbeat, hreconnect⟩ :=
      ofFields?_eq_some_iff.mp h
    obtain ⟨whost, wtransport, wport, wpartition, wcode, wheartbeat, wreconnect⟩ :=
      ofFields?_eq_some_iff.mp hown
    rw [toValue, Toml.Value.overlay, ofValue?]
    simp only [Toml.Value.lookup_membersOver he.members.1]
    exact ofFields?_eq_some_iff.mpr
      ⟨read_overlaid (·.bind Value.string?) (fun _ => rfl) hhost whost,
      read_overlaid transport? (fun _ => rfl) htransport wtransport,
      read_overlaid (optional? _ _) (fun _ => rfl) hport wport,
      read_overlaid counter? (fun _ => rfl) hpartition wpartition,
      read_overlaid counter? (fun _ => rfl) hcode wcode,
      read_overlaid (optional? _ _) (fun _ => rfl) hheartbeat wheartbeat,
      read_overlaid (optional? _ _) (fun _ => rfl) hreconnect wreconnect⟩
  · rw [Toml.Value.overlaid_leaf hleaf, Option.bind_some] at h
    rw [Toml.Value.overlay_leaf hleaf, h]

end Profile

namespace Config

open Bindings (InOrder)

/-- The fields outside of the profiles. -/
def topFields (c : Config) : List (String × Value) :=
  (c.defaultProfile.map fun name => ("default_profile", Value.string name)).toList

def fields (c : Config) : List (String × Value) :=
  c.topFields ++ [("profiles", .table (c.profiles.map fun x => (x.1, x.2.toValue)))]

def toValue (c : Config) : Value := .table (Bindings.sort c.fields)

theorem nodup_fields (c : Config) : (c.fields.map Prod.fst).Nodup := by
  obtain ⟨_ | _, _⟩ := c <;> simp [fields, topFields]

theorem lookup_fields (c : Config) :
    c.fields.lookup "default_profile" = c.defaultProfile.map .string ∧
    c.fields.lookup "profiles" =
      some (.table (c.profiles.map fun x => (x.1, x.2.toValue))) := by
  obtain ⟨_ | _, _⟩ := c <;> exact ⟨rfl, rfl⟩

/-- Reading every member keeps the names, and each name is bound to what its value is read as. -/
theorem lookup_of_mapM {ms : List (String × Value)} {ps : List (String × Profile)}
    (h : ms.mapM profile? = some ps) (k : String) :
    (ms.lookup k).map Profile.ofValue? = (ps.lookup k).map some := by
  induction ms generalizing ps with
  | nil => exact Option.some.inj h ▸ rfl
  | cons m ms ih =>
    obtain ⟨l, v⟩ := m
    rw [List.mapM_cons] at h
    obtain ⟨⟨l', p⟩, hp, h⟩ := Option.bind_eq_some_iff.mp h
    obtain ⟨qs, hqs, h⟩ := Option.bind_eq_some_iff.mp h
    obtain ⟨q, hq, heq⟩ := Option.map_eq_some_iff.mp hp
    obtain ⟨rfl, rfl⟩ := Prod.mk.inj heq
    obtain rfl := Option.some.inj h
    by_cases hk : k = l
    · subst hk
      rw [List.lookup_cons_self, List.lookup_cons_self, Option.map_some, Option.map_some, hq]
    · rw [Bindings.lookup_cons_of_ne hk, Bindings.lookup_cons_of_ne hk, ih hqs]

theorem names_of_mapM {ms : List (String × Value)} {ps : List (String × Profile)}
    (h : ms.mapM profile? = some ps) : ps.map Prod.fst = ms.map Prod.fst := by
  induction ms generalizing ps with
  | nil => exact Option.some.inj h ▸ rfl
  | cons m ms ih =>
    rw [List.mapM_cons] at h
    obtain ⟨p, hp, h⟩ := Option.bind_eq_some_iff.mp h
    obtain ⟨qs, hqs, h⟩ := Option.bind_eq_some_iff.mp h
    obtain ⟨q, -, rfl⟩ := Option.map_eq_some_iff.mp hp
    obtain rfl := Option.some.inj h
    rw [List.map_cons, List.map_cons, ih hqs]

theorem inOrder_of_mapM {ms : List (String × Value)} {ps : List (String × Profile)}
    (hms : InOrder ms) (h : ms.mapM profile? = some ps) : InOrder ps := by
  have hnames : (ps.map Prod.fst).Pairwise (· < ·) :=
    names_of_mapM h ▸ List.pairwise_map.mpr hms
  exact List.pairwise_map.mp hnames

/-- Members in order are read as the profiles in order that their values are read as. -/
theorem mapM_of_lookup {ms : List (String × Value)} {ps : List (String × Profile)}
    (hms : InOrder ms) (hps : InOrder ps)
    (h : ∀ k, (ms.lookup k).map Profile.ofValue? = (ps.lookup k).map some) :
    ms.mapM profile? = some ps := by
  induction ms generalizing ps with
  | nil =>
    cases ps with
    | nil => rfl
    | cons x ps =>
      have hx := h x.1
      rw [List.lookup_cons_self] at hx
      cases hx
  | cons m ms ih =>
    obtain ⟨k, v⟩ := m
    cases ps with
    | nil => simpa using h k
    | cons x ps =>
      obtain ⟨l, p⟩ := x
      have hk := h k
      have hl := h l
      rw [List.lookup_cons_self] at hk hl
      obtain ⟨q, hq, -⟩ := Option.map_eq_some_iff.mp hk.symm
      obtain ⟨w, hw, -⟩ := Option.map_eq_some_iff.mp hl
      obtain rfl : k = l := hms.head_eq hps hq hw
      have hp : Profile.ofValue? v = some p := by simpa using h k
      have htail : ms.mapM profile? = some ps := by
        refine ih hms.tail hps.tail fun j => ?_
        by_cases hj : j = k
        · rw [hj, hms.lookup_tail, hps.lookup_tail]
          rfl
        · simpa [Bindings.lookup_cons_of_ne hj] using h j
      rw [List.mapM_cons, profile?, hp, htail]
      rfl

theorem mapM_toValue (ps : List (String × Profile)) :
    (ps.map fun x => (x.1, x.2.toValue)).mapM profile? = some ps := by
  induction ps with
  | nil => rfl
  | cons x ps ih =>
    rw [List.map_cons, List.mapM_cons, profile?, Profile.ofValue?_toValue, ih]
    rfl

/-- Profiles that were read with `es` over something are read with `es` over their own values. -/
theorem mapM_membersOver {es : List (String × Value)} {g : String → Option Value}
    {ps : List (String × Profile)} (hes : (Value.table es).Ordered) (hps : InOrder ps)
    (h : ∀ k, (overlaid (es.lookup k) (g k)).map Profile.ofValue? = (ps.lookup k).map some) :
    (Value.membersOver es (ps.map fun x => (x.1, x.2.toValue))).mapM profile? = some ps := by
  refine mapM_of_lookup (Toml.Value.inOrder_membersOver (hps.map _)) hps fun k => ?_
  rw [Toml.Value.lookup_membersOver hes.members.1, Bindings.lookup_map, ← h k]
  have hk := h k
  cases hp : ps.lookup k with
  | none =>
    rw [hp, Option.map_none, Option.map_eq_none_iff] at hk
    cases he : es.lookup k with
    | none =>
      rw [he] at hk
      rw [hk]
      rfl
    | some e =>
      rw [he] at hk
      cases hm : g k <;> rw [hm] at hk <;> cases hk
  | some p =>
    rw [hp] at hk
    rw [hk]
    obtain ⟨v, hv, hread⟩ := Option.map_eq_some_iff.mp hk
    cases he : es.lookup k with
    | none => exact congrArg some (Profile.ofValue?_toValue p)
    | some e =>
      rw [he] at hv
      have hover : (overlaid (some e) (g k)).bind Profile.ofValue? = some p := by
        rw [hv, Option.bind_some, hread]
      exact congrArg some (Profile.ofValue?_overlay (hes.lookup he) hover)

theorem inOrder_of_profiles? {x : Option Value} {ps : List (String × Profile)}
    (h : profiles? x = some ps) : InOrder ps := by
  unfold profiles? at h
  split at h
  · exact Option.some.inj h ▸ .nil
  · obtain ⟨qs, -, rfl⟩ := Option.map_eq_some_iff.mp h
    exact Bindings.inOrder_sort qs
  · cases h

theorem profiles?_overlaid {e x : Option Value} {ps : List (String × Profile)}
    (he : ∀ v ∈ e, v.Ordered) (hx : ∀ w ∈ x, w.Ordered) (h : profiles? (overlaid e x) = some ps) :
    profiles? (overlaid e (some (.table (ps.map fun x => (x.1, x.2.toValue))))) = some ps := by
  have hps : InOrder ps := inOrder_of_profiles? h
  have hsort {ms : List (String × Value)} (hms : ms.mapM profile? = some ps) :
      profiles? (some (.table ms)) = some ps := by
    rw [profiles?, hms, Option.map_some, Bindings.sort_eq_self hps]
  cases e with
  | none => exact hsort (mapM_toValue ps)
  | some e =>
    rcases e.table_or_leaf with ⟨es, rfl⟩ | hleaf
    · have hes := he _ rfl
      obtain ⟨vs, hvs, hlookup⟩ := Toml.Value.exists_lookup_overlaid hes.members.1 x
      have hordered : (Value.table vs).Ordered := Toml.Value.Ordered.overlaid he hx _ hvs
      rw [hvs] at h
      obtain ⟨qs, hqs, hsorted⟩ := Option.map_eq_some_iff.mp h
      rw [Bindings.sort_eq_self (inOrder_of_mapM hordered.members.1 hqs)] at hsorted
      subst hsorted
      rw [overlaid, Toml.Value.overlay]
      exact hsort (mapM_membersOver hes hps fun k => hlookup k ▸ lookup_of_mapM hqs k)
    · rw [Toml.Value.overlaid_leaf hleaf] at h ⊢
      exact h

/-- The default profile that a configuration may name. -/
def defaultProfile? : Option Value → Option (Option String)
  | none => some none
  | some v => v.string?.map some

theorem ofValue?_table_eq_some_iff {ms : List (String × Value)} {c : Config} :
    ofValue? (.table ms) = some c ↔ defaultProfile? (ms.lookup "default_profile") =
      some c.defaultProfile ∧ profiles? (ms.lookup "profiles") = some c.profiles := by
  obtain ⟨d, ps⟩ := c
  have hdefault : ofValue? (.table ms) = (defaultProfile? (ms.lookup "default_profile")).bind
      fun d => (profiles? (ms.lookup "profiles")).bind fun ps => some ⟨d, ps⟩ := by
    rw [ofValue?]
    cases ms.lookup "default_profile" <;> rfl
  simp [hdefault, Option.bind_eq_some_iff]

/-- A configuration that was read with `e` over something is read with `e` over its own value. -/
theorem ofValue?_overlay {c : Config} {e f : Value} (he : e.Ordered) (hf : f.Ordered)
    (h : ofValue? (e.overlay f) = some c) : ofValue? (e.overlay c.toValue) = some c := by
  rcases e.table_or_leaf with ⟨es, rfl⟩ | hleaf
  · obtain ⟨vs, hvs, hlookup⟩ := Toml.Value.exists_lookup_overlaid he.members.1 (some f)
    rw [Option.some.inj hvs, ofValue?_table_eq_some_iff, hlookup, hlookup] at h
    obtain ⟨hdefault, hprofiles⟩ := h
    obtain ⟨ldefault, lprofiles⟩ := lookup_fields c
    have hown : defaultProfile? (c.fields.lookup "default_profile") = some c.defaultProfile := by
      rw [ldefault]
      cases c.defaultProfile <;> rfl
    rw [toValue, Toml.Value.overlay, ofValue?_table_eq_some_iff,
      Toml.Value.lookup_membersOver he.members.1, Toml.Value.lookup_membersOver he.members.1,
      Bindings.lookup_sort c.nodup_fields, Bindings.lookup_sort c.nodup_fields, lprofiles]
    exact ⟨read_overlaid defaultProfile? (fun _ => rfl) hdefault hown,
      profiles?_overlaid (fun _ hv => he.lookup hv)
        (Toml.Value.Ordered.member? (fun _ hw => Option.some.inj hw ▸ hf) _) hprofiles⟩
  · rw [Toml.Value.overlay_leaf hleaf] at h ⊢
    exact h

end Config

end AlarmKeypad
