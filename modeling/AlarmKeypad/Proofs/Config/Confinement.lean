import AlarmKeypad.Proofs.Config.Beside
import AlarmKeypad.Proofs.Config.Naming
import AlarmKeypad.Proofs.Config.RoundTrip
import Mathlib.Data.Option.Basic

namespace AlarmKeypad

open Toml (Value)
open Toml.Value (member? overlaid Beside BesideAt Present StaysUnder Altered)

namespace Variable

variable {R : Option Value → Option Value → Prop} {env : Environment} {name text : String}
  {path : List String}

/-- The settings with one variable more over those below it. -/
def lay (below : Value) (x : String × String) : Option Value :=
  match path? x.1 with
  | none => some below
  | some path => match nest path (value x.2) with
    | .table ms => some ((Value.table ms).overlay below)
    | _ => none

theorem settings?_eq (env : Environment) : settings? env = env.foldlM lay (.table []) := rfl

/-- A variable puts a table over the settings below, or nothing; or it is a fault. -/
theorem lay_cases (x : String × String) :
    (∃ t : Option Value, (∀ u ∈ t, u.Ordered) ∧ (∀ u ∈ t, ∃ ms, u = .table ms) ∧
      ∀ below, lay below x = overlaid t (some below)) ∨ ∀ below, lay below x = none := by
  unfold lay
  cases path? x.1 with
  | none => exact .inl ⟨none, by simp, by simp, fun _ => rfl⟩
  | some path =>
    dsimp only
    rcases (nest path (value x.2)).table_or_leaf with ⟨ms, hms⟩ | hleaf
    · have hordered := ordered_nest path (ordered_value x.2)
      rw [hms] at hordered ⊢
      exact .inl ⟨some (.table ms), fun _ h => Option.some.inj h ▸ hordered,
        fun _ h => ⟨ms, (Option.some.inj h).symm⟩, fun _ => rfl⟩
    · refine .inr fun _ => ?_
      split
      · exact absurd ‹_› (hleaf _)
      · rfl

/-- Settings are a table. -/
theorem table_of_settings? {v : Value} (h : settings? env = some v) : ∃ ms, v = .table ms := by
  refine Toml.foldlM_keeps (p := fun v => ∃ ms, v = .table ms)
    (fun x _ {below next} hbelow hnext => ?_) ⟨[], rfl⟩ (settings?_eq env ▸ h)
  obtain ⟨ms, rfl⟩ := hbelow
  rcases lay_cases x with ⟨t, -, htable, hlay⟩ | hnone
  · rw [hlay] at hnext
    cases t with
    | none => exact ⟨ms, (Option.some.inj hnext).symm⟩
    | some t =>
      obtain ⟨ts, rfl⟩ := htable t rfl
      rw [overlaid, Value.overlay] at hnext
      exact ⟨_, (Option.some.inj hnext).symm⟩
  · rw [hnone] at hnext
    cases hnext

/-- What is related stays so under all further variables, unless one of them is a fault. -/
theorem rel_foldlM (hR : StaysUnder R) {v w : Value} (h : R (some v) (some w)) (env : Environment) :
    (env.foldlM lay v = none ∧ env.foldlM lay w = none) ∨ ∃ v' w', env.foldlM lay v = some v' ∧
      env.foldlM lay w = some w' ∧ R (some v') (some w') := by
  induction env generalizing v w with
  | nil => exact .inr ⟨v, w, rfl, rfl, h⟩
  | cons x env ih =>
    rw [List.foldlM_cons, List.foldlM_cons]
    rcases lay_cases x with ⟨t, hordered, -, hlay⟩ | hnone
    · have hover := hR hordered h
      rw [hlay, hlay]
      cases t with
      | none => exact ih h
      | some t => exact ih hover
    · rw [hnone, hnone]
      exact .inl ⟨rfl, rfl⟩

/-- A variable puts its value at the end of its path and nothing beside the path. -/
theorem besideAt_nest (hpath : ∀ k ∈ path, k ≠ "") (y : Value) (v : Option Value) :
    BesideAt path Present v (overlaid (some (nest path y)) v) := by
  induction path generalizing v with
  | nil => exact Toml.Value.present_overlaid y v
  | cons k path ih =>
    obtain ⟨hk, hpath⟩ := List.forall_mem_cons.mp hpath
    rw [nest, if_neg (by simpa using hk)]
    exact Toml.Value.beside_singleton (ih hpath _)

theorem lay_eq_overlaid {k : String} (h : path? name = some (k :: path)) (hk : k ≠ "")
    (below : Value) :
    lay below (name, text) = overlaid (some (nest (k :: path) (value text))) (some below) := by
  have hnest : nest (k :: path) (value text) = .table [(k, nest path (value text))] :=
    if_neg (by simpa using hk)
  rw [hnest, lay, h]
  dsimp only
  rw [hnest]
  rfl

/-- Settings with one variable more are those without it but for what is at the end of its path. -/
theorem besideAt_settings? {k : String} (h : path? name = some (k :: path))
    (hpath : ∀ l ∈ k :: path, l ≠ "") (before after : Environment) (text : String) :
    (settings? (before ++ after) = none ∧ settings? (before ++ (name, text) :: after) = none) ∨
      ∃ v e, settings? (before ++ after) = some v ∧
        settings? (before ++ (name, text) :: after) = some e ∧
        BesideAt (k :: path) Present (some v) (some e) := by
  rw [settings?_eq, settings?_eq, List.foldlM_append, List.foldlM_append]
  cases before.foldlM lay (.table []) with
  | none => exact .inl ⟨rfl, rfl⟩
  | some v =>
    simp only [Option.bind_eq_bind, Option.bind_some, List.foldlM_cons,
      lay_eq_overlaid h (hpath k List.mem_cons_self)]
    exact rel_foldlM (Toml.Value.staysUnder_besideAt Toml.Value.staysUnder_present _)
      (besideAt_nest hpath _ _) after

/-- Without one variable and with it there are no settings, or there are two tables of them. -/
theorem settings?_insert {k : String} (h : path? name = some (k :: path))
    (hpath : ∀ l ∈ k :: path, l ≠ "") (before after : Environment) (text : String) :
    (settings? (before ++ after) = none ∧ settings? (before ++ (name, text) :: after) = none) ∨
      ∃ ms e, settings? (before ++ after) = some (.table ms) ∧
        settings? (before ++ (name, text) :: after) = some e ∧ (Value.table ms).Ordered ∧
        e.Ordered ∧ BesideAt (k :: path) Present (some (.table ms)) (some e) := by
  rcases besideAt_settings? h hpath before after text with hnone | ⟨v, e, hs, hs', hbeside⟩
  · exact .inl hnone
  · obtain ⟨ms, rfl⟩ := table_of_settings? hs
    exact .inr ⟨ms, e, hs, hs', ordered_of_settings? hs, ordered_of_settings? hs', hbeside⟩

end Variable

namespace Config

open Variable (Environment settings?)

variable {S : Option Value → Option Value → Prop} {k v : String} {e e' : Value}
  {x x' : Option Value}

/-- The value of a file with the variables over it. -/
def merged? (file : Option (List UInt8)) (env : Environment) : Option Value :=
  (settings? env).bind fun e => (fileValue? file).map e.overlay

theorem read?_eq (file : Option (List UInt8)) (env : Environment) :
    read? file env = (merged? file env).bind ofValue? := by
  rw [read?, merged?]
  cases settings? env with
  | none => rfl
  | some e => cases fileValue? file <;> rfl

/-- Tables that agree on the fields of a configuration are read alike. -/
theorem ofValue?_congr {ms ns : List (String × Value)}
    (hdefault : ms.lookup "default_profile" = ns.lookup "default_profile")
    (hprofiles : ms.lookup "profiles" = ns.lookup "profiles") :
    ofValue? (.table ms) = ofValue? (.table ns) := by
  rw [ofValue?, ofValue?, hdefault, hprofiles]

/-- What a name that no configuration has leads to is not read. -/
theorem ofValue?_of_beside (h : Beside k S (some e) (some e'))
    (he : ∃ ms, e = .table ms) (hk : k ∉ ["", "default_profile", "profiles"]) :
    ofValue? e' = ofValue? e := by
  obtain ⟨ms, rfl⟩ := he
  obtain heq | ⟨ws, hws, hbeside, -⟩ := h
  · rw [Option.some.inj heq]
  · obtain rfl := Option.some.inj hws
    have hne {l : String} (hl : l ∈ ["", "default_profile", "profiles"]) : l ≠ k :=
      fun heq => hk (heq ▸ hl)
    exact ofValue?_congr (hbeside _ (hne (by simp))) (hbeside _ (hne (by simp)))

theorem load_of_mem_variableNames (hv : v ∈ Cli.Argument.variableNames)
    (file : Option (List UInt8)) (before after : Environment) (text : String) :
    load file (before ++ (v, text) :: after) = load file (before ++ after) := by
  obtain ⟨k, hpath, hk⟩ := Variable.path?_of_mem_variableNames hv
  have hne : ∀ l ∈ [k], l ≠ "" := fun l hl heq => hk (by simp_all)
  rcases Variable.settings?_insert hpath hne before after text with
    ⟨hs, hs'⟩ | ⟨ms, e, hs, hs', hordered, hordered', hrel⟩
  · rw [load, load, read?_eq, read?_eq, merged?, merged?, hs, hs']
  · have hread (f : Value) : ofValue? (e.overlay f) = ofValue? ((Value.table ms).overlay f) := by
      have hover := Beside.overlaid (S := fun _ _ => True) (x := some f) hrel
        (fun _ hu => Option.some.inj hu ▸ hordered) (fun _ hu => Option.some.inj hu ▸ hordered')
        (fun _ hu => ⟨ms, (Option.some.inj hu).symm⟩) fun _ => trivial
      obtain ⟨vs, hvs, -⟩ := Toml.Value.exists_lookup_overlaid hordered.members.1 (some f)
      exact ofValue?_of_beside hover ⟨vs, Option.some.inj hvs⟩ hk
    have hsame : read? file (before ++ (v, text) :: after) = read? file (before ++ after) := by
      rw [read?_eq, read?_eq, merged?, merged?, hs, hs']
      cases fileValue? file with
      | none => rfl
      | some f => exact hread f
    rw [load, load, hsame]

/-- Whatever the variables of the command line are, the configuration is the same. -/
theorem load_filter (file : Option (List UInt8)) (env : Environment) :
    load file (env.filter (·.1 ∉ Cli.Argument.variableNames)) = load file env := by
  suffices hall : ∀ before, load file (before ++ env.filter (·.1 ∉ Cli.Argument.variableNames)) =
      load file (before ++ env) from hall []
  induction env with
  | nil => exact fun _ => rfl
  | cons x env ih =>
    intro before
    by_cases hx : x.1 ∈ Cli.Argument.variableNames
    · rw [List.filter_cons_of_neg (by simpa using hx), ih, load_of_mem_variableNames hx]
    · rw [List.filter_cons_of_pos (by simpa using hx), List.append_cons, ih, ← List.append_cons]

/-- What a value says of a profile. -/
def written? (name : String) (v : Option Value) : Option Value :=
  member? name (member? "profiles" v)

/-- What the variable of a field may make of a profile, of which `file` is said in the file and
`own` in all there is without the variable. -/
inductive Reaches (f : Profile.Field) (file own : Option Value) : Option Profile → Profile → Prop
  /-- One field has changed, if any. -/
  | field {p q : Profile} (h : p.SameBut f q) : Reaches f file own (some p) q
  /-- A profile has come to be of a host alone. -/
  | host (name : String) (h : f = .host) : Reaches f file own none (.ofHost name)
  /-- An array is hidden, and the profile is the table of the file with the field over it. -/
  | hidden {p q : Profile} {items : List Value} {y : Value} (hown : own = some (.array items))
    (hq : (overlaid (some (.table [(f.key, y)])) file).bind Profile.ofValue? = some q) :
    Reaches f file own (some p) q

theorem lookup_of_profiles? {ps : List (String × Profile)} (hx : ∀ u ∈ x, u.Ordered)
    (h : profiles? x = some ps) (k : String) :
    (member? k x).map Profile.ofValue? = (ps.lookup k).map some := by
  cases x with
  | none => exact Option.some.inj h ▸ rfl
  | some u =>
    cases u with
    | table ms =>
      obtain ⟨qs, hqs, rfl⟩ := Option.map_eq_some_iff.mp h
      rw [Bindings.sort_eq_self (inOrder_of_mapM (hx _ rfl).members.1 hqs)]
      exact lookup_of_mapM hqs k
    | _ => cases h

theorem table_of_profiles? {ps : List (String × Profile)}
    (h : profiles? (overlaid x x') = some ps) : ∀ u ∈ x, ∃ ms, u = .table ms := by
  rcases Toml.Value.table_or_leaf? x with htable | ⟨u, rfl, hleaf⟩
  · exact htable
  · rw [Toml.Value.overlaid_leaf hleaf] at h
    cases u with
    | table ms => exact absurd rfl (hleaf ms)
    | _ => cases h

/-- A profile that is read of an altered value is what the variable may make of it. -/
theorem reaches_of_altered {f : Profile.Field} {file u w : Option Value} {p : Option Profile}
    {q : Profile} (h : Altered f.key file u w) (hu : u.map Profile.ofValue? = p.map some)
    (hw : w.map Profile.ofValue? = some (some q)) : Reaches f file u p q := by
  cases h with
  | same h =>
    subst h
    obtain ⟨r, rfl, hr⟩ := Option.map_eq_some_iff.mp (hu.symm.trans hw)
    obtain rfl := Option.some.inj hr
    exact .field (.refl f r)
  | member htable hwq hbeside =>
    subst hwq
    have hq := Option.some.inj hw
    cases u with
    | none =>
      obtain rfl : p = none := Option.map_eq_none_iff.mp hu.symm
      obtain ⟨hf, hhost⟩ := Profile.of_lookup_none hq hbeside
      rw [hhost]
      exact .host _ hf
    | some v =>
      obtain ⟨ms, rfl⟩ := htable v rfl
      obtain ⟨r, rfl, hr⟩ := Option.map_eq_some_iff.mp hu.symm
      exact .field (Profile.sameBut_of_lookup hr.symm hq hbeside)
  | @hidden v y hv hleaf hwq =>
    subst hv
    obtain ⟨r, rfl, hr⟩ := Option.map_eq_some_iff.mp hu.symm
    have hq : (overlaid (some (.table [(f.key, y)])) file).bind Profile.ofValue? = some q := by
      obtain ⟨v, hv, hq⟩ := Option.map_eq_some_iff.mp hw
      rw [← hwq, hv, Option.bind_some, hq]
    -- of what is no table only an array is read as a profile
    cases v with
    | array items => exact .hidden rfl hq
    | table ms => exact absurd rfl (hleaf ms)
    | _ => cases hr

/-- Profiles that are read of values with a difference in what they say of one. -/
theorem profiles_of_beside {f : Profile.Field} {file : Option Value}
    {ps ps' : List (String × Profile)} (h : Beside k (Altered f.key file) x x')
    (hx : ∀ u ∈ x, u.Ordered) (hx' : ∀ u ∈ x', u.Ordered) (hps : profiles? x = some ps)
    (hps' : profiles? x' = some ps') : ps' = ps ∨ ∃ q, ps' = Bindings.insert k q ps ∧
      Reaches f file (member? k x) (ps.lookup k) q := by
  have hread := lookup_of_profiles? hx hps
  have hread' := lookup_of_profiles? hx' hps'
  obtain rfl | ⟨ws, rfl, hbeside, hat⟩ := h
  · exact .inl (Option.some.inj (hps'.symm.trans hps))
  · have hother : ∀ l, l ≠ k → ps'.lookup l = ps.lookup l := by
      intro l hl
      have hl' : (ws.lookup l).map Profile.ofValue? = (ps'.lookup l).map some := hread' l
      rw [hbeside l hl, hread l] at hl'
      exact (Option.map_injective (Option.some_injective _) hl').symm
    have horder := inOrder_of_profiles? hps
    have horder' := inOrder_of_profiles? hps'
    have hw : (ws.lookup k).map Profile.ofValue? = (ps'.lookup k).map some := hread' k
    cases hq : ps'.lookup k with
    | some q =>
      rw [hq] at hw
      exact .inr ⟨q, horder.eq_insert horder' hq hother, reaches_of_altered hat (hread k) hw⟩
    | none =>
      rw [hq, Option.map_none, Option.map_eq_none_iff] at hw
      rw [hw] at hat
      -- nothing is said of the profile with the variable, and so nothing without it
      have hnone : member? k x = none := by
        cases hat with
        | same h => exact h
        | member _ hw => cases hw
        | hidden _ _ hw => cases file <;> cases hw
      have hp := hread k
      rw [hnone, Option.map_none, eq_comm, Option.map_eq_none_iff] at hp
      refine .inl (horder'.ext horder fun l => ?_)
      by_cases hl : l = k
      · rw [hl, hq, hp]
      · exact hother l hl

/-- Settings that differ at a field of a profile, over one file, differ in what is said of that
profile. -/
theorem beside_overlay {f : Profile.Field} {ms : List (String × Value)} {c : Config} {u : Value}
    (h : BesideAt ["profiles", k, f.key] Present (some (.table ms)) (some e'))
    (he : (Value.table ms).Ordered) (he' : e'.Ordered)
    (hread : ofValue? ((Value.table ms).overlay u) = some c) :
    Beside "profiles" (Beside k (Altered f.key (written? k (some u))))
      (some ((Value.table ms).overlay u)) (some (e'.overlay u)) := by
  have hordered : ∀ v ∈ some (Value.table ms), v.Ordered := fun _ hv => Option.some.inj hv ▸ he
  have hordered' : ∀ v ∈ some e', v.Ordered := fun _ hv => Option.some.inj hv ▸ he'
  have htable : ∀ v ∈ member? "profiles" (some (Value.table ms)), ∃ ms, v = .table ms := by
    obtain ⟨vs, hvs, hlookup⟩ := Toml.Value.exists_lookup_overlaid he.members.1 (some u)
    rw [Option.some.inj hvs, ofValue?_table_eq_some_iff, hlookup, hlookup] at hread
    exact table_of_profiles? hread.2
  refine Beside.overlaid (x := some u) h hordered hordered'
    (fun _ hv => ⟨ms, (Option.some.inj hv).symm⟩) fun hprofiles => ?_
  refine Beside.overlaid hprofiles (Toml.Value.Ordered.member? hordered _)
    (Toml.Value.Ordered.member? hordered' _) htable fun hown => ?_
  exact Toml.Value.altered_overlaid hown
    (Toml.Value.Ordered.member? (Toml.Value.Ordered.member? hordered _) _)
    (Toml.Value.Ordered.member? (Toml.Value.Ordered.member? hordered' _) _) _

/-- Configurations that are read of values with a difference in what they say of one profile. -/
theorem config_of_beside {f : Profile.Field} {file : Option Value} {c c' : Config}
    (h : Beside "profiles" (Beside k (Altered f.key file)) (some e) (some e')) (he : e.Ordered)
    (he' : e'.Ordered) (hread : ofValue? e = some c) (hread' : ofValue? e' = some c') :
    c' = c ∨ ∃ q, c' = { c with profiles := Bindings.insert k q c.profiles } ∧
      Reaches f file (written? k (some e)) (c.profiles.lookup k) q := by
  obtain heq | ⟨ws, hws, hother, hat⟩ := h
  · rw [← Option.some.inj heq, hread] at hread'
    exact .inl (Option.some.inj hread').symm
  · obtain rfl := Option.some.inj hws
    obtain ⟨ms, rfl⟩ | hleaf := e.table_or_leaf
    · obtain ⟨hdefault, hprofiles⟩ := ofValue?_table_eq_some_iff.mp hread
      obtain ⟨hdefault', hprofiles'⟩ := ofValue?_table_eq_some_iff.mp hread'
      have hsame : c'.defaultProfile = c.defaultProfile := by
        rw [hother "default_profile" (by decide), member?, hdefault] at hdefault'
        exact (Option.some.inj hdefault').symm
      obtain ⟨d, ps⟩ := c
      obtain ⟨d', ps'⟩ := c'
      obtain rfl : d' = d := hsame
      rcases profiles_of_beside hat (fun _ hv => he.lookup hv) (fun _ hv => he'.lookup hv) hprofiles
        hprofiles' with rfl | ⟨q, rfl, hq⟩
      · exact .inl rfl
      · exact .inr ⟨q, rfl, hq⟩
    · cases e with
      | table ms => exact absurd rfl (hleaf ms)
      | _ => cases hread

/-- The variables of the command line never change a configuration. The variable of a field changes
at most that field of one profile, which may come to be where the field is the host; but a profile
that is written as an array it hides, and nothing of the array stays. -/
theorem environment_confined (file : Option (List UInt8)) :
    (∀ env env' : Environment, env.filter (·.1 ∉ Cli.Argument.variableNames) =
      env'.filter (·.1 ∉ Cli.Argument.variableNames) → load file env = load file env') ∧
    ∀ (before after : Environment) (v text name : String) (f : Profile.Field) (c c' : Config),
      name ≠ "" → (∀ x ∈ name.toList, x.isAlphanum = true) →
      v.toLower = (Variable.ofField name f).toLower →
      load file (before ++ after) = .ok c → load file (before ++ (v, text) :: after) = .ok c' →
      c' = c ∨ ∃ q,
        c' = { c with profiles := Bindings.insert name.toLower q c.profiles } ∧
        Reaches f (written? name.toLower (fileValue? file))
          (written? name.toLower (merged? file (before ++ after)))
          (c.profiles.lookup name.toLower) q := by
  refine ⟨fun env env' h => ?own, fun before after v text name f c c' hne hname hv h h' => ?field⟩
  case own => rw [← load_filter, h, load_filter]
  case field =>
    obtain ⟨e, u, he, hu, hread⟩ := load_eq_ok_iff.mp h
    obtain ⟨e', u', he', hu', hread'⟩ := load_eq_ok_iff.mp h'
    obtain rfl := Option.some.inj (hu.symm.trans hu')
    rcases Variable.settings?_insert (Variable.path?_ofField hname hv)
      (Variable.parts_ofField hne f) before after text with
      ⟨hs, -⟩ | ⟨ms, w, hs, hs', hordered, hordered', hrel⟩
    · exact nomatch hs.symm.trans he
    · obtain rfl := Option.some.inj (hs.symm.trans he)
      obtain rfl := Option.some.inj (hs'.symm.trans he')
      have hfile := ordered_of_fileValue? hu
      have hmerged : merged? file (before ++ after) = some ((Value.table ms).overlay u) := by
        rw [merged?, he, hu]
        rfl
      rw [hmerged, hu]
      exact config_of_beside (beside_overlay hrel hordered hordered' hread) (hordered.overlay hfile)
        (hordered'.overlay hfile) hread hread'

/-- The port of one profile of two is changed by a variable in letters of either case; a port for
the command line changes nothing. -/
theorem environment_confined_port :
    let file := some (Text.Utf8.encodeString
      ("default_profile = 'lab'\n[profiles.home]\nhost = 'ad2.lan'\nport = 80\n" ++
        "[profiles.lab]\nhost = 'a'\n"))
    let own : Environment := [("AD2KP_PORT", "[1")]
    let v := "ad2kp_Profiles__Home__PORT"
    let home := { Profile.ofHost "ad2.lan" with port := some 80 }
    let c : Config := ⟨some "lab", [("home", home), ("lab", .ofHost "a")]⟩
    let c' : Config :=
      ⟨some "lab", [("home", { home with port := some 8081 }), ("lab", .ofHost "a")]⟩
    own.filter (·.1 ∉ Cli.Argument.variableNames) = [] ∧ load file own = load file [] ∧
      "HOME" ≠ "" ∧ (∀ x ∈ "HOME".toList, x.isAlphanum = true) ∧
      v.toLower = (Variable.ofField "HOME" .port).toLower ∧
      load file own = .ok c ∧ load file (own ++ [(v, " 8081")]) = .ok c' ∧
      (c' = c ∨ ∃ q, c' = { c with profiles := Bindings.insert "home" q c.profiles } ∧
        Reaches .port (written? "home" (fileValue? file)) (written? "home" (merged? file own))
          (c.profiles.lookup "home") q) := by
  intro file own v home c c'
  have hfilter : own.filter (·.1 ∉ Cli.Argument.variableNames) = [] := by decide
  have hown : load file own = load file [] := (environment_confined file).1 own [] hfilter
  have hload : load file own = .ok c := by
    rw [hown, load, read?, fileValue?_encodeString]
    decide +kernel
  have hload' : load file (own ++ [(v, " 8081")]) = .ok c' := by
    rw [load, read?, fileValue?_encodeString]
    decide +kernel
  have hname : ∀ x ∈ "HOME".toList, x.isAlphanum = true := List.all_eq_true.mp (by decide +kernel)
  have hlower : "HOME".toLower = "home" := by
    rw [← String.toList_inj, Variable.toList_toLower]
    decide +kernel
  have hv : v.toLower = (Variable.ofField "HOME" .port).toLower := by
    rw [← String.toList_inj, Variable.toList_toLower, Variable.toList_toLower]
    decide +kernel
  have hconfined := (environment_confined file).2 own [] v " 8081" "HOME" .port c c' (by decide)
    hname hv ((congrArg (load file) own.append_nil).trans hload) hload'
  rw [hlower, List.append_nil] at hconfined
  exact ⟨hfilter, hown, by decide, hname, hv, hload, hload', hconfined⟩

/-- A profile that is an array of its fields loses all but its host to the variable of the host. -/
theorem array_loses_fields :
    let file := some (Text.Utf8.encodeString
      "[profiles]\nhome = [\"10.0.0.5\", \"tcp\", 10000, 1, 3, 5, 500]\n")
    let home : Profile := ⟨"10.0.0.5", .tcp, some 10000, 1, 3, some 5, some 500⟩
    load file [] = .ok ⟨none, [("home", home)]⟩ ∧
      load file [("AD2KP_PROFILES__HOME__HOST", "10.9.9.9")] =
        .ok ⟨none, [("home", .ofHost "10.9.9.9")]⟩ ∧
      ¬home.SameBut .host (.ofHost "10.9.9.9") := by
  intro file home
  refine ⟨?_, ?_, by decide⟩
  · rw [load, read?, fileValue?_encodeString]
    decide +kernel
  · rw [load, read?, fileValue?_encodeString]
    decide +kernel

end Config
end AlarmKeypad
