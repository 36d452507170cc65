import AlarmKeypad.Proofs.Config.Profile
import AlarmKeypad.Proofs.Session.Flushing

namespace AlarmKeypad.Session

/-- The first line of a connection has gone out when no heartbeat could be set. -/
def Unsettable (k : KeypadSettings) (h : List Stamped) : Prop :=
  ∃ t c line, ⟨t, .handed c .greeting line⟩ ∈ h ∧ ¬k.HasHeartbeat t

theorem unsettable_cons {k : KeypadSettings} {e : Stamped} {h : List Stamped}
    (he : ∀ c line, e.event = .handed c .greeting line → k.HasHeartbeat e.time) :
    Unsettable k (e :: h) ↔ Unsettable k h := by
  constructor
  · rintro ⟨t, c, line, hmem, hk⟩
    rcases List.mem_cons.mp hmem with rfl | hmem
    · exact absurd (he c line rfl) hk
    · exact ⟨t, c, line, hmem, hk⟩
  · rintro ⟨t, c, line, hmem, hk⟩
    exact ⟨t, c, line, List.mem_cons_of_mem _ hmem, hk⟩

namespace State
variable {s s' : State} {t : Turn}

/-- Callers see a crashed session connected. -/
theorem Tracked.published_of_crashed (h : s.Tracked) (hp : s.phase = .crashed) :
    s.published = .connected := by
  obtain ⟨q, -, hs⟩ := h
  have fits := hs.fits
  rw [hp] at fits
  rw [hs.published, show q.stage = .crashed from fits]
  rfl

theorem setHeartbeat_of_hasHeartbeat (h : s.settings.HasHeartbeat s.now) :
    s.setHeartbeat = s.goTo (.live (s.now + s.settings.heartbeat)) :=
  if_pos h

theorem setHeartbeat_of_not (h : ¬s.settings.HasHeartbeat s.now) :
    s.setHeartbeat = s.drop.goTo .crashed :=
  if_neg h

/-- The first line of a connection has just gone out. -/
def Greets (s : State) (t : Turn) : Prop := t = .move .handed ∧ s.phase = .greeting

theorem handed_of_greeting (hp : s.phase = .greeting) (ht : s.handed? = some s') :
    s' = (s.record (.handed s.connections .greeting s.settings.syncLine)).setHeartbeat := by
  simpa [handed?, pending?, hp, afterHanding, State.record, eq_comm] using ht

/-- The heartbeat is set, or the session crashes. -/
theorem crashed_greets_iff {k : KeypadSettings} (hk : s.settings = k) (hp : s.phase = .greeting)
    (hpast : ¬Unsettable k s.history) (ht : s.handed? = some s') :
    s'.phase = .crashed ↔ Unsettable k s'.history := by
  subst hk
  have hs := handed_of_greeting hp ht
  by_cases h : s.settings.HasHeartbeat s.now
  · rw [hs.trans (setHeartbeat_of_hasHeartbeat h)]
    exact ⟨nofun, fun hu => absurd ((unsettable_cons fun _ _ _ => h).mp hu) hpast⟩
  · rw [hs.trans (setHeartbeat_of_not h)]
    refine ⟨fun _ => ⟨s.now, s.connections, s.settings.syncLine, ?_, h⟩, fun _ => rfl⟩
    exact List.mem_cons_of_mem _ List.mem_cons_self

/-- No other turn makes a session crash. -/
theorem crashed_turn_iff (hg : ¬s.Greets t) (ht : s.turn? t = some s') :
    s'.phase = .crashed ↔ s.phase = .crashed := by
  refine ⟨fun hp' => ?_, fun hp => crashed_turn hp ht⟩
  cases t with
  | late ms =>
    obtain rfl := Option.some.inj ht
    exact hp'
  | move m =>
    cases m with
    | call r =>
      obtain rfl := Option.some.inj ht
      exact phase_call s r ▸ hp'
    | resume id =>
      change s.resume? id = some s' at ht
      unfold resume? at ht
      split at ht <;> grind [State.record, returned, waiting]
    | act => exact absurd hp' (act_working ht).2.2.1
    | handed =>
      obtain ⟨source, line, hpending, rfl⟩ := of_handed? ht
      have hne : s.phase ≠ .greeting := fun hp => hg ⟨rfl, hp⟩
      grind [afterHanding, State.record, goTo, pending?]
    | handFailed =>
      obtain ⟨⟨source, line⟩, -, rfl⟩ := Option.map_eq_some_iff.mp ht
      cases hp'
    | closed =>
      obtain ⟨-, rfl⟩ := of_closed? ht
      cases hp'
    | elapse ms =>
      obtain ⟨-, hs⟩ := Option.ite_none_right_eq_some.mp ht
      obtain rfl := Option.some.inj hs
      exact hp'
    | received line =>
      -- a line that is taken in leaves the phase
      have hl : ¬s.Leaves (.move (.received line)) := not_false
      exact (advances_turn ht).phase hl ▸ hp'
    | opened | refused | faulted | hungUp =>
      obtain ⟨-, hs⟩ := Option.ite_none_right_eq_some.mp ht
      obtain rfl := Option.some.inj hs
      cases hp'

theorem unsettable_turn (hg : ¬s.Greets t) (ht : s.turn? t = some s') (k : KeypadSettings) :
    Unsettable k s'.history ↔ Unsettable k s.history := by
  refine iff_of_eq ((advances_turn ht).adds.eq_of_cons fun e h he => propext ?_)
  refine unsettable_cons fun c line heq => ?_
  rw [heq] at he
  obtain ⟨rfl, -, hpending⟩ := he
  refine absurd ⟨rfl, ?_⟩ hg
  unfold pending? at hpending
  split at hpending <;> grind

/-- A session has crashed exactly if it could not set the heartbeat of a connection. -/
theorem run_crashed_iff (k : KeypadSettings) (ts : List Turn) :
    ((init k).run ts).phase = .crashed ↔ Unsettable k ((init k).run ts).history := by
  refine run_prefix_induction (P := fun s => s.phase = .crashed ↔ Unsettable k s.history)
    (fun ts t s' ih ht => ?_) ?_ ts
  · by_cases hg : ((init k).run ts).Greets t
    · obtain ⟨rfl, hp⟩ := hg
      exact crashed_greets_iff (settings_run _ ts) hp
        (fun hu => nomatch hp.symm.trans (ih.mpr hu)) ht
    · rw [crashed_turn_iff hg ht, unsettable_turn hg ht, ih]
  · exact ⟨nofun, fun ⟨_, _, _, hmem, _⟩ => nomatch hmem⟩

end State

/-- The seconds between the heartbeats of a profile. -/
def heartbeatOf (p : Profile) : Nat := (p.heartbeatSeconds.map UInt64.toNat).getD 15

theorem heartbeatOf_ne_zero {p : Profile} (h : p.heartbeatSeconds ≠ some 0) :
    heartbeatOf p ≠ 0 := by
  unfold heartbeatOf
  cases hsecs : p.heartbeatSeconds with
  | none => decide
  | some secs =>
    intro hzero
    have heq : secs = 0 := UInt64.toNat_inj.mp hzero
    exact h (hsecs.trans (congrArg some heq))

/-- The timers of a profile that is accepted. -/
theorem timers_of_resolve {p : Profile} {c : Connection} (h : p.resolve = .ok c) :
    p.heartbeatSeconds ≠ some 0 ∧ c.settings.heartbeat = heartbeatOf p * 1000 ∧
      c.settings.reconnectDelay =
        (p.reconnectMillis.map UInt64.toNat).getD KeypadSettings.default.reconnectDelay := by
  obtain ⟨husable, rfl⟩ := Profile.resolve_eq_ok_iff.mp h
  refine ⟨husable.heartbeat, ?_, rfl⟩
  change (p.heartbeatSeconds.map fun s => s.toNat * 1000).getD 15000 = heartbeatOf p * 1000
  unfold heartbeatOf
  cases p.heartbeatSeconds <;> rfl

theorem reconnectDelay_lt {p : Profile} {c : Connection} (h : p.resolve = .ok c) :
    c.settings.reconnectDelay < UInt64.size := by
  rw [(timers_of_resolve h).2.2]
  cases p.reconnectMillis with
  | none => decide
  | some ms => exact ms.toNat_lt_size

/-- The first heartbeat has to come within 63 bits of seconds. -/
theorem hasHeartbeat_iff {p : Profile} {c : Connection} (h : p.resolve = .ok c) (t : Nat) :
    c.settings.HasHeartbeat t ↔ t / 1000 + heartbeatOf p < UInt64.size / 2 := by
  obtain ⟨hsecs, hheartbeat, -⟩ := timers_of_resolve h
  have hne := heartbeatOf_ne_zero hsecs
  have hdiv : (t + c.settings.heartbeat) / 1000 = t / 1000 + heartbeatOf p := by omega
  unfold KeypadSettings.HasHeartbeat
  rw [hdiv]
  exact and_iff_right (by omega)

/-- The profile with the longest heartbeat. -/
def longest : Profile := { Profile.ofHost "panel" with heartbeatSeconds := some (-1) }

set_option maxRecDepth 10000 in
/-- Its session crashes on its first connection, and callers see it connected. -/
theorem longest_crashes : ∃ c, longest.resolve = .ok c ∧
    ((State.init c.settings).run Turn.begins).phase = .crashed ∧
      ((State.init c.settings).run Turn.begins).published = .connected := by
  refine ⟨_, rfl, ?_⟩
  decide +kernel

/-- What a profile that is accepted makes of the timers. The heartbeat is not zero, and the delay
before a reconnection is within 64 bits of milliseconds. The session crashes exactly if a connection
is greeted so late, with a heartbeat so long, that the seconds until the first heartbeat do not fit
in 63 bits; it is then gone for good and stays published as connected. -/
theorem accepted_crashes_iff (p : Profile) (c : Connection) (h : p.resolve = .ok c) :
    c.settings.heartbeat ≠ 0 ∧ c.settings.reconnectDelay < UInt64.size ∧
      ∀ ts, let s := (State.init c.settings).run ts
        (s.phase = .crashed ↔
          ∃ t n line, ⟨t, .handed n .greeting line⟩ ∈ s.history ∧
            UInt64.size / 2 ≤ t / 1000 + heartbeatOf p) ∧
        (s.phase = .crashed → ∀ us,
          (s.run us).phase = .crashed ∧ (s.run us).published = .connected) := by
  obtain ⟨hsecs, hheartbeat, -⟩ := timers_of_resolve h
  have hne := heartbeatOf_ne_zero hsecs
  refine ⟨by omega, reconnectDelay_lt h, fun ts => ⟨?_, fun hp us => ?_⟩⟩
  · rw [State.run_crashed_iff, Unsettable]
    simp only [hasHeartbeat_iff h, Nat.not_lt]
  · have hp' : (((State.init c.settings).run ts).run us).phase = .crashed :=
      State.run_induction (P := fun u => u.phase = .crashed)
        (fun _ _ _ => State.crashed_turn) hp us
    refine ⟨hp', State.Tracked.published_of_crashed ?_ hp'⟩
    rw [← State.run_append]
    exact State.run_tracked _ _

set_option maxRecDepth 10000 in
/-- The device hangs up and time passes, and callers still see the session connected. -/
theorem longest_stays_connected : ∃ c, longest.resolve = .ok c ∧
    (((State.init c.settings).run Turn.begins).run Turn.rests).published = .connected := by
  refine ⟨_, rfl, ?_⟩
  obtain ⟨-, -, hruns⟩ := accepted_crashes_iff longest _ rfl
  exact ((hruns Turn.begins).2 (by decide +kernel) Turn.rests).2

end AlarmKeypad.Session
