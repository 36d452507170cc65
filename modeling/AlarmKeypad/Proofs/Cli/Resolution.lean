import AlarmKeypad.Cli.Exit
import AlarmKeypad.Proofs.Bindings
import AlarmKeypad.Proofs.Config.Profile

namespace AlarmKeypad.Cli

def listed (names : List String) : String :=
  if names = [] then "(none)" else String.intercalate ", " names

theorem availableProfiles_eq (c : Config) :
    availableProfiles c = listed (c.profiles.map Prod.fst) := by
  unfold availableProfiles listed
  cases c.profiles <;> rfl

/-- The names are those under which a profile is found. -/
theorem mem_names_iff {c : Config} {name : String} :
    name ∈ c.profiles.map Prod.fst ↔ (c.profiles.lookup name).isSome := by
  induction c.profiles with
  | nil => simp
  | cons m ms ih =>
    obtain ⟨l, p⟩ := m
    rw [List.map_cons, List.mem_cons, ih]
    by_cases hname : name = l
    · simp [hname]
    · rw [Bindings.lookup_cons_of_ne hname]
      exact or_iff_right hname

namespace Options

variable {o : Options} {c : Config} {path : String} {p : Profile} {r : Connection}

/-- The default profile, if it exists. -/
def default? (c : Config) : Option Profile :=
  c.defaultProfile.bind fun name => c.profiles.lookup name

/-- The profile that options start from: the one they ask for, else the default one, else one that
knows only their host. -/
inductive StartsFrom (o : Options) (c : Config) : Profile → Prop
  | requested {name : String} {p : Profile} (ho : o.profile = some name)
      (hp : c.profiles.lookup name = some p) : StartsFrom o c p
  | default {p : Profile} (ho : o.profile = none) (hd : default? c = some p) : StartsFrom o c p
  | host {host : String} (ho : o.profile = none) (hd : default? c = none)
      (hh : o.host = some host) : StartsFrom o c ⟨host, .webSocket, none, 0, 0, none, none⟩

theorem base_of_missing {name : String} (ho : o.profile = some name)
    (hp : c.profiles.lookup name = none) :
    o.base c path = .error (.profileNotFound name (listed (c.profiles.map Prod.fst))) := by
  simp only [base, Config.active, ho, hp, availableProfiles_eq]

/-- Where no profile is asked for, the default one comes before the host. -/
theorem base_of_unasked (ho : o.profile = none) : o.base c path =
    match default? c, o.host with
    | some p, _ => .ok p
    | none, some host => .ok (.ofHost host)
    | none, none => .error (.noEndpoint path) := by
  unfold base default?
  rw [ho, Config.active]
  cases c.defaultProfile with
  | none => cases o.host <;> rfl
  | some name => cases h : c.profiles.lookup name <;> cases o.host <;> simp [h]

theorem base_of_startsFrom (h : o.StartsFrom c p) : o.base c path = .ok p := by
  cases h with
  | requested ho hp => simp only [base, Config.active, ho, hp]
  | default ho hd => simp only [base_of_unasked ho, hd]
  | host ho hd hh => simp only [base_of_unasked ho, hd, hh, Profile.ofHost]

theorem base_of_nowhere (ho : o.profile = none) (hd : default? c = none) (hh : o.host = none) :
    o.base c path = .error (.noEndpoint path) := by
  simp only [base_of_unasked ho, hd, hh]

theorem resolve_of_base_error {f : CliFault} (h : o.base c path = .error f) :
    o.resolve c path = .error f := by
  rw [resolve, h]
  rfl

theorem resolve_eq_ok_iff (h : o.StartsFrom c p) :
    o.resolve c path = .ok r ↔ (o.overlay p).IsUsable ∧ r = (o.overlay p).connection := by
  rw [resolve, base_of_startsFrom h, ← Profile.resolve_eq_ok_iff]
  cases hr : (o.overlay p).resolve <;> simp [bind, Except.bind, Except.mapError, hr]

/-- The connection of a raw stream goes to a port. -/
theorem addressOf_connection (h : p.IsUsable) (ht : p.transport = .tcp) : ∃ port,
    p.port = some port ∧
      Errand.addressOf p.connection.endpoint =
        .ok (Endpoint.streamAddress (Text.trimString p.host) port) := by
  obtain ⟨port, hport⟩ := Option.ne_none_iff_exists'.mp (h.port ht)
  refine ⟨port, hport, ?_⟩
  simp [Errand.addressOf, Profile.connection, ht, hport, Endpoint.address, Endpoint.text,
    Endpoint.streamAddress, Except.mapError]

/-- What options and a configuration come to. A profile that is asked for and missing is a fault
that lists the names there are, in order, whatever else is asked for; options that name neither a
profile nor a host, where no default profile exists, name no endpoint. Otherwise they start from a
profile, and there is a connection exactly if the profile with the options over it is usable. Every
field of it is the option's value where one is given and the profile's where none is; the timers are
the profile's. So a raw stream always has a port to go to, and there is always a heartbeat. -/
theorem resolve_overlays (o : Options) (c : Config) (path : String) :
    (∀ name, o.profile = some name → c.profiles.lookup name = none → ∃ names : List String,
      o.resolve c path = .error (.profileNotFound name
        (if names = [] then "(none)" else String.intercalate ", " names)) ∧
      (∀ n, n ∈ names ↔ (c.profiles.lookup n).isSome) ∧
      (Bindings.InOrder c.profiles → names.Pairwise (· < ·))) ∧
    (o.profile = none → default? c = none → o.host = none →
      o.resolve c path = .error (.noEndpoint path)) ∧
    ∀ p, o.StartsFrom c p →
      let host := Text.trimString (o.host.getD p.host)
      let transport := o.transport.getD p.transport
      let port := o.port.or p.port
      ((∃ r, o.resolve c path = .ok r) ↔
        host ≠ "" ∧ (transport = .tcp → port ≠ none) ∧ p.heartbeatSeconds ≠ some 0) ∧
      ∀ r, o.resolve c path = .ok r →
        r.endpoint = ⟨transport, host, port⟩ ∧
        r.settings =
          { partition := o.partition.getD p.partition
            code := o.code.getD p.code
            pingMask := pingMask
            heartbeat := (p.heartbeatSeconds.map fun s => s.toNat * 1000).getD 15000
            reconnectDelay := (p.reconnectMillis.map UInt64.toNat).getD 1000 } ∧
        r.settings.heartbeat ≠ 0 ∧
        (transport = .tcp → ∃ n, port = some n ∧
          Errand.addressOf r.endpoint = .ok (Endpoint.streamAddress host n)) := by
  refine ⟨fun name ho hp => ?_, fun ho hd hh => ?_, fun p hp => ?_⟩
  · exact ⟨_, resolve_of_base_error (base_of_missing ho hp), fun _ => mem_names_iff,
      fun horder => List.pairwise_map.mpr horder⟩
  · exact resolve_of_base_error (base_of_nowhere ho hd hh)
  intro host transport port
  have husable : (o.overlay p).IsUsable ↔
      host ≠ "" ∧ (transport = .tcp → port ≠ none) ∧ p.heartbeatSeconds ≠ some 0 :=
    ⟨fun h => ⟨h.host, h.port, h.heartbeat⟩, fun ⟨hhost, hport, hheartbeat⟩ =>
      ⟨hhost, hport, hheartbeat⟩⟩
  refine ⟨?_, fun r hr => ?_⟩
  · rw [← husable]
    exact ⟨fun ⟨_, hr⟩ => ((resolve_eq_ok_iff hp).mp hr).1,
      fun h => ⟨_, (resolve_eq_ok_iff hp).mpr ⟨h, rfl⟩⟩⟩
  · obtain ⟨h, rfl⟩ := (resolve_eq_ok_iff hp).mp hr
    exact ⟨rfl, rfl, Profile.heartbeat_connection_ne_zero h, addressOf_connection h⟩

/-- A profile that is no good alone does with an option. -/
example : let home : Profile := ⟨" panel ", .tcp, none, 1, 2, none, some 250⟩
    let o : Options := ⟨none, none, none, some 10000, some 4, none, .text, .auto, 0⟩
    home.resolve = .error (.validation "port" "required for the tcp transport") ∧
      o.resolve ⟨some "home", [("home", home)]⟩ "config.toml" =
        .ok ⟨⟨.tcp, "panel", some 10000⟩, ⟨4, 2, pingMask, 15000, 250⟩⟩ := ⟨by rfl, by rfl⟩

end Options
end AlarmKeypad.Cli
