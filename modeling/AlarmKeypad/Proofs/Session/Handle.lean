import AlarmKeypad.Proofs.Session.Retirement

namespace AlarmKeypad.Session.State

variable {s s' : State} {id : Nat}

theorem lookup_returned (s : State) (i : Nat) (r : Reply) (id : Nat) :
    (s.returned i r).calls.lookup id = if i = id then none else s.calls.lookup id := by
  split
  case isTrue h => exact h ▸ lookup_filter_self s.calls i
  case isFalse h => exact lookup_filter_ne s.calls h

theorem lookup_waiting (s : State) (i : Nat) (c : Call) (id : Nat) :
    (s.waiting i c).calls.lookup id = if i = id then some c else s.calls.lookup id := by
  split
  case isTrue h => exact h ▸ List.lookup_cons_self
  case isFalse h =>
    rw [← lookup_filter_ne s.calls h, waiting, List.lookup_cons, beq_false_of_ne (Ne.symm h)]

/-- The session is not at work, there to be joined, or waited for. -/
structure Held (s : State) : Prop where
  unstarted : s.phase = .idle → s.joinable = false
  /-- A session that is not there to be joined has a call that waits for its end. -/
  joining : s.joinable = false →
    s.phase = .idle ∨ s.phase.IsOver ∨ ∃ id, s.calls.lookup id = some .joining
  crashed : s.phase = .crashed → ¬s.settings.HasHeartbeat s.now

theorem not_hasHeartbeat_mono {k : KeypadSettings} {now now' : Nat} (h : ¬k.HasHeartbeat now)
    (hn : now ≤ now') : ¬k.HasHeartbeat now' := by
  unfold KeypadSettings.HasHeartbeat at *
  omega

theorem Held.record (h : s.Held) (e : Event) : (s.record e).Held :=
  ⟨h.unstarted, h.joining, h.crashed⟩

theorem Held.later (h : s.Held) (ms : Nat) : { s with now := s.now + ms }.Held :=
  ⟨h.unstarted, h.joining, fun hp => not_hasHeartbeat_mono (h.crashed hp) (Nat.le_add_right _ _)⟩

theorem joinable_call (s : State) (r : Request) : (s.call r).joinable = s.joinable := by
  cases r <;> grind [State.call, record, returned, waiting, offer]

theorem Held.call (h : s.Held) (a : s.Accounted) (r : Request) : (s.call r).Held where
  unstarted hp := by
    rw [phase_call] at hp
    rw [joinable_call]
    exact h.unstarted hp
  joining hj := by
    rw [joinable_call] at hj
    rw [phase_call]
    refine (h.joining hj).imp_right (.imp_right ?_)
    rintro ⟨id, hl⟩
    -- the new call is not the one that waits
    have hid : id < s.callCount := a.calls_lt _ (mem_of_lookup hl)
    have hsame : (s.call r).calls.lookup id = s.calls.lookup id :=
      congrArg Prod.fst (own_call hid r)
    exact ⟨id, hsame.trans hl⟩
  crashed hp := by
    rw [phase_call] at hp
    rw [settings_call, now_call]
    exact h.crashed hp

theorem Held.returned (h : s.Held) (r : Reply)
    (hid : s.calls.lookup id ≠ some .joining ∨ s.phase.IsOver) : (s.returned id r).Held where
  unstarted := h.unstarted
  joining hj := by
    rcases h.joining hj with hp | hp | ⟨i, hl⟩
    · exact .inl hp
    · exact .inr (.inl hp)
    · rcases hid with hid | hp
      · have hne : id ≠ i := fun heq => hid (heq ▸ hl)
        exact .inr (.inr ⟨i, by rw [lookup_returned, if_neg hne, hl]⟩)
      · exact .inr (.inl hp)
  crashed := h.crashed

theorem Held.resume (h : s.Held) (hr : s.resume? id = some s') : s'.Held := by
  unfold resume? at hr
  split at hr
  · exact nomatch hr
  all_goals rename_i hl
  · split at hr
    · exact Option.some.inj hr ▸ h.returned _ (.inl (by simp [hl]))
    · split at hr
      · have spawned : ({ s with phase := .starting, joinable := true }.record .spawned).Held :=
          ⟨nofun, nofun, nofun⟩
        exact Option.some.inj hr ▸ spawned.returned _ (.inl (by simp [State.record, hl]))
      · exact Option.some.inj hr ▸ h.returned _ (.inl (by simp [hl]))
  · split at hr
    · obtain rfl := Option.some.inj hr
      exact ⟨fun _ => rfl, fun _ => .inr (.inr ⟨id, by rw [lookup_waiting, if_pos rfl]⟩), h.crashed⟩
    · exact Option.some.inj hr ▸ h.returned _ (.inl (by simp [hl]))
  · split at hr
    · exact Option.some.inj hr ▸ h.returned _ (.inr ‹_›)
    · exact nomatch hr
  · split at hr
    · exact Option.some.inj hr ▸ h.returned _ (.inl (by simp [hl]))
    · split at hr
      · rename_i line _ _
        have queued : ({ s with queue := s.queue ++ [(⟨id, line⟩ : Ticket)] }.record
            (.queued ⟨id, line⟩)).Held := ⟨h.unstarted, h.joining, h.crashed⟩
        exact Option.some.inj hr ▸ queued.returned _ (.inl (by simp [State.record, hl]))
      · exact nomatch hr

@[simp] theorem joinable_publish (s : State) (c : ConnectionState) :
    (s.publish c).joinable = s.joinable := by
  unfold publish
  split <;> rfl

/-- A step of its own leaves a session at work. -/
theorem act_working (ha : s.act? = some s') : (¬s.phase.IsOver ∧ s.phase ≠ .idle) ∧
    s'.phase ≠ .idle ∧ s'.phase ≠ .crashed ∧ s'.joinable = s.joinable := by
  unfold act? at ha
  split at ha <;> grind [State.record, goTo, drop, joinable_publish, Phase.IsOver]

theorem Held.act (h : s.Held) (ha : s.act? = some s') : s'.Held := by
  obtain ⟨hs, hidle, hcrashed, hjoinable⟩ := act_working ha
  have hcalls : s'.calls = s.calls := (advances_act ha).calls nofun nofun
  refine ⟨fun hp => absurd hp hidle, fun hj => ?_, fun hp => absurd hp hcrashed⟩
  rw [hcalls]
  exact .inr (.inr (((h.joining (hjoinable ▸ hj)).resolve_left hs.2).resolve_left hs.1))

/-- A line has gone over or has not; the session crashes if no heartbeat can be set. -/
theorem Held.hand (h : s.Held) {source : Source} {line : String}
    (hp : s.pending? = some (source, line)) :
    (s.record (.handed s.connections source line)).afterHanding.Held ∧
      ((s.record (.handFailed s.connections source line)).goTo (.ended .failed)).Held := by
  obtain ⟨hu, hj, hc⟩ := h
  constructor <;> constructor <;>
    grind [afterHanding, setHeartbeat, pending?, State.record, goTo, drop, Phase.IsOver]

theorem Held.ingest (h : s.Held) (line : String) : (s.ingest line).Held := by
  unfold State.ingest
  dsimp only
  split
  · exact h.record _
  · split
    · exact ⟨h.unstarted, h.joining, h.crashed⟩
    · exact ⟨h.unstarted, h.joining, h.crashed⟩

/-- A session at work goes on with its work. -/
theorem Held.goTo (h : s.Held) {p : Phase} (hs : ¬s.phase.IsOver ∧ s.phase ≠ .idle)
    (hp : p ≠ .idle ∧ p ≠ .crashed) : (s.goTo p).Held where
  unstarted hp' := absurd hp' hp.1
  joining hj := .inr (.inr (((h.joining hj).resolve_left hs.2).resolve_left hs.1))
  crashed hp' := absurd hp' hp.2

theorem Held.move (h : s.Held) (a : s.Accounted) {m : Move} (hm : s.move? m = some s') :
    s'.Held := by
  cases m with
  | elapse ms =>
    obtain ⟨-, hs⟩ := Option.ite_none_right_eq_some.mp hm
    exact Option.some.inj hs ▸ h.later ms
  | call r => exact Option.some.inj hm ▸ h.call a r
  | resume id => exact h.resume hm
  | act => exact h.act hm
  | handed =>
    obtain ⟨⟨source, line⟩, hp, rfl⟩ := Option.map_eq_some_iff.mp hm
    exact (h.hand hp).1
  | handFailed =>
    obtain ⟨⟨source, line⟩, hp, rfl⟩ := Option.map_eq_some_iff.mp hm
    exact (h.hand hp).2
  | received line =>
    obtain ⟨-, hs⟩ := Option.ite_none_right_eq_some.mp hm
    exact Option.some.inj hs ▸ h.ingest line
  | closed =>
    obtain ⟨⟨d, hp⟩, rfl⟩ := of_closed? hm
    exact (h.record _).goTo (by simp [State.record, hp, Phase.IsOver]) (by simp)
  | opened =>
    obtain ⟨⟨hp, -⟩, hs⟩ := Option.ite_none_right_eq_some.mp hm
    have connected : ({ s with connections := s.connections + 1 }.record
        (.opened (s.connections + 1))).Held := ⟨h.unstarted, h.joining, h.crashed⟩
    exact Option.some.inj hs ▸
      connected.goTo (by simp [State.record, hp, Phase.IsOver]) (by simp)
  | refused =>
    obtain ⟨⟨hp, -⟩, hs⟩ := Option.ite_none_right_eq_some.mp hm
    exact Option.some.inj hs ▸
      (h.record _).goTo (by simp [State.record, hp, Phase.IsOver]) (by simp)
  | faulted | hungUp =>
    obtain ⟨⟨⟨d, hp⟩, -⟩, hs⟩ := Option.ite_none_right_eq_some.mp hm
    exact Option.some.inj hs ▸
      (h.record _).goTo (by simp [State.record, hp, Phase.IsOver]) (by simp)

theorem held_init (k : KeypadSettings) : (init k).Held where
  unstarted _ := rfl
  joining _ := .inl rfl
  crashed hp := absurd hp (by simp [init])

theorem run_held (k : KeypadSettings) (ts : List Turn) : ((init k).run ts).Held := by
  refine run_prefix_induction (P := Held) (fun ts t s' h ht => ?_) (held_init k) ts
  cases t with
  | move m => exact h.move (run_accounted k ts) ht
  | late ms => exact Option.some.inj ht ▸ h.later ms

end AlarmKeypad.Session.State
