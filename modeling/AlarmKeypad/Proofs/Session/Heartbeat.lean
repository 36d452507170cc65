import AlarmKeypad.Proofs.Session.Ticks
import AlarmKeypad.Proofs.Session.VirtualTime
/-!
# The rhythm of heartbeats

In virtual time, where no hand-over takes any, heartbeats keep time exactly: the n-th goes over n
periods after the first line of its connection, as long as the connection lasts and the keypad is
not shut down.
-/

namespace AlarmKeypad.Session

/-- What ends the heartbeats of a connection: its own end, or a call for shutdown. -/
def Event.Silences (c : Nat) (e : Event) : Prop := e.Ends c ∨ ∃ id, e = .called id .shutdown

/-- Whether the heartbeats of a connection have been ended by a time. -/
def SilencedBy (c t : Nat) (h : List Stamped) : Prop := ∃ x ∈ h, x.time ≤ t ∧ x.event.Silences c

theorem SilencedBy.mono {c t t' : Nat} {h h' : List Stamped} (hs : SilencedBy c t h) (ht : t ≤ t')
    (hh : h <:+ h') : SilencedBy c t' h' := by
  obtain ⟨x, hx, hle, hx'⟩ := hs
  exact ⟨x, hh.mem hx, Nat.le_trans hle ht, hx'⟩

theorem pingsOn_mono {c : Nat} {h h' : List Stamped} (hh : h <:+ h') :
    pingsOn c h ≤ pingsOn c h' :=
  (collect_isPrefix hh).sublist.countP_le

/-- With events that hand over nothing, every hand-over is an earlier one. -/
theorem Adds.suffix_of_handover {h h' past : List Stamped} {e : Stamped}
    (ha : Adds (·.handover? = none) h h') (he : e :: past <:+ h') (ho : e.event.handover? ≠ none) :
    e :: past <:+ h := by
  induction ha with
  | refl => exact he
  | cons x _ hx ih =>
    rcases List.suffix_cons_iff.mp he with heq | hs
    · exact absurd ((List.cons.inj heq).1 ▸ hx) ho
    · exact ih hs

theorem Adds.mem_of_handover {h h' : List Stamped} {e : Stamped}
    (ha : Adds (·.handover? = none) h h') (he : e ∈ h') (ho : e.event.handover? ≠ none) : e ∈ h := by
  obtain ⟨later, past, rfl⟩ := List.append_of_mem he
  exact (ha.suffix_of_handover (List.suffix_append _ _) ho).mem List.mem_cons_self

/-- How the heartbeats stand of a connection that was greeted at `since`, with so many behind it:
the next is due at its time, or is going over in time. -/
def Phase.OnBeat (period now since pings : Nat) : Phase → Prop
  | .live d | .sending _ d => d = since + (pings + 1) * period ∧ now ≤ d
  | .pinging d => d = since + (pings + 1 + 1) * period ∧ now = since + (pings + 1) * period
  | _ => True

namespace Phase.OnBeat

variable {p : Phase} {period now since pings : Nat}

theorem of_not_ticking (hp : ¬p.IsTicking) : p.OnBeat period now since pings := by
  cases p <;> first | trivial | exact absurd trivial hp

theorem now_le (h : p.OnBeat period now since pings) (hp : p.IsTicking) :
    now ≤ since + (pings + 1) * period := by
  cases p with
  | live d | sending x d => exact h.1 ▸ h.2
  | pinging d => exact Nat.le_of_eq h.2
  | _ => exact hp.elim

end Phase.OnBeat

namespace State

/-- When the next heartbeat is due on a connection that was greeted at `since`. -/
def beatDue (s : State) (c since : Nat) : Nat :=
  since + (pingsOn c s.history + 1) * s.settings.heartbeat

/-- Heartbeats are in time: the next one, all that have gone over, and none is missing. -/
structure Rhythm (s : State) : Prop where
  beat : ∀ since l, ⟨since, .handed s.connections .greeting l⟩ ∈ s.history →
    s.phase.OnBeat s.settings.heartbeat s.now since (pingsOn s.connections s.history)
  past : ∀ e past c line, e :: past <:+ s.history →
    e.event.handover? = some ⟨c, .heartbeat, line⟩ →
    ∀ since l, ⟨since, .handed c .greeting l⟩ ∈ past →
      e.time = since + (pingsOn c past + 1) * s.settings.heartbeat
  kept : ∀ since c l, ⟨since, .handed c .greeting l⟩ ∈ s.history →
    c = s.connections ∧ s.phase.IsTicking ∨ SilencedBy c (s.beatDue c since) s.history

variable {s s' : State} {m : Move}

theorem beatDue_mono (hh : s.history <:+ s'.history) (hk : s'.settings = s.settings)
    (c since : Nat) : s.beatDue c since ≤ s'.beatDue c since := by
  unfold beatDue
  rw [hk]
  have hle := Nat.add_le_add_right (pingsOn_mono (c := c) hh) 1
  exact Nat.add_le_add_left (Nat.mul_le_mul_right _ hle) _

theorem Rhythm.now_le (r : s.Rhythm) (hp : s.phase.IsTicking) {since : Nat} {l : String}
    (hg : ⟨since, .handed s.connections .greeting l⟩ ∈ s.history) :
    s.now ≤ s.beatDue s.connections since :=
  (r.beat since l hg).now_le hp

/-- Heartbeats that have been ended are so in time; others can be ended now. -/
theorem Rhythm.silenced (r : s.Rhythm) (hh : s.history <:+ s'.history)
    (hk : s'.settings = s.settings) {since c : Nat} {l : String}
    (hg : ⟨since, .handed c .greeting l⟩ ∈ s.history)
    (hs : c = s.connections → s.phase.IsTicking → SilencedBy s.connections s.now s'.history) :
    SilencedBy c (s'.beatDue c since) s'.history := by
  have hdue := beatDue_mono hh hk c since
  rcases r.kept since c l hg with ⟨rfl, hp⟩ | hold
  · exact (hs rfl hp).mono (Nat.le_trans (r.now_le hp hg) hdue) (List.suffix_refl _)
  · exact hold.mono hdue hh

/-- The next heartbeat stays as it is, or all have been ended. -/
theorem Rhythm.of_not_hand (r : s.Rhythm) (h : s.Tracked) (ht : s.move? m = some s')
    (hh : m ≠ .handed) (hf : m ≠ .handFailed)
    (hbeat : s'.phase.IsTicking → ∀ since pings,
      s.phase.OnBeat s.settings.heartbeat s.now since pings →
        s'.phase.OnBeat s.settings.heartbeat s'.now since pings)
    (hkept : s.phase.IsTicking →
      s'.phase.IsTicking ∨ SilencedBy s.connections s.now s'.history) : s'.Rhythm := by
  have hh' : Turn.move m ≠ .move .handed := fun heq => hh (Turn.move.inj heq)
  have hf' : Turn.move m ≠ .move .handFailed := fun heq => hf (Turn.move.inj heq)
  have hadds := adds_of_not_hand (t := .move m) ht hh' hf'
  have hsettings := settings_move ht
  have hconn (hp : s.phase.IsTicking) : s'.connections = s.connections :=
    connections_turn (t := .move m) h (fun ho => (ho.1 ▸ hp : Phase.opening.IsTicking)) ht
  have hticking (hp : s'.phase.IsTicking) : s.phase.IsTicking :=
    ticking_of_not_hand (t := .move m) ht hh' hf' hp
  constructor
  · intro since l hg
    by_cases hp : s'.phase.IsTicking
    · rw [hconn (hticking hp)] at hg ⊢
      rw [hsettings, pingsOn_of_not_hand (t := .move m) ht hh' hf']
      exact hbeat hp _ _ (r.beat since l (hadds.mem_of_handover hg nofun))
    · exact .of_not_ticking hp
  · intro e past c line he ho since l hg
    rw [hsettings]
    exact r.past e past c line (hadds.suffix_of_handover he (ho ▸ nofun)) ho since l hg
  · intro since c l hg
    by_cases hp : c = s'.connections ∧ s'.phase.IsTicking
    · exact .inl hp
    · refine .inr (r.silenced hadds.suffix hsettings (hadds.mem_of_handover hg nofun) ?_)
      rintro rfl hs
      exact (hkept hs).resolve_left fun hp' => hp ⟨(hconn hs).symm, hp'⟩

/-- A turn that takes no time and does not lead away from heartbeats that are set. -/
theorem Rhythm.of_not_leaves (r : s.Rhythm) (h : s.Tracked) (ht : s.move? m = some s')
    (hh : m ≠ .handed) (hf : m ≠ .handFailed) (hnow : s'.now = s.now)
    (hl : s.phase.IsTicking → ¬s.Leaves (.move m)) : s'.Rhythm := by
  have hphase (hp : s.phase.IsTicking) : s'.phase = s.phase := (advances_move ht).phase (hl hp)
  refine r.of_not_hand h ht hh hf (fun hp since pings hb => ?_) fun hp => .inl ((hphase hp).symm ▸ hp)
  have hs := ticking_of_not_hand (t := .move m) ht (fun heq => hh (Turn.move.inj heq))
    (fun heq => hf (Turn.move.inj heq)) hp
  rw [hphase hs, hnow]
  exact hb

/-- A session that has been told to stop was told so by now. -/
theorem silencedBy_of_cancelled (h : s.Tracked) (hd : s.Dated) (hc : s.cancelled = true) (c : Nat) :
    SilencedBy c s.now s.history := by
  obtain ⟨q, ht, hs⟩ := h
  obtain ⟨x, hx, id, hid⟩ := ht.told_iff.mp (hs.told ▸ hc)
  exact ⟨x, hx, hd x hx, .inr ⟨id, hid⟩⟩

/-- While heartbeats are set the session takes three kinds of steps. -/
theorem act_cases (hp : s.phase.IsTicking) (ha : s.act? = some s') : ∃ d, s.phase = .live d ∧
    (s.cancelled = true ∧ s' = s.goTo .flushing ∨
      (∃ x r, s' = { s with queue := r }.goTo (.sending x d)) ∨
      d ≤ s.now ∧ s' = s.goTo (.pinging (s.nextHeartbeat d))) := by
  unfold act? at ha
  cases hphase : s.phase with
  | live d =>
    refine ⟨d, rfl, ?_⟩
    rw [hphase] at ha
    dsimp only at ha
    split at ha
    · exact .inl ⟨‹_›, (Option.some.inj ha).symm⟩
    · split at ha
      · exact .inr (.inl ⟨_, _, (Option.some.inj ha).symm⟩)
      · obtain ⟨hdue, hs⟩ := Option.ite_none_right_eq_some.mp ha
        exact .inr (.inr ⟨hdue, (Option.some.inj hs).symm⟩)
  | sending x d => simp [hphase] at ha
  | pinging d => simp [hphase] at ha
  | _ => exact (hphase ▸ hp).elim

/-- A tick that comes when it is due leaves the next where it was to be. -/
theorem onBeat_tick {period now since pings d : Nat}
    (hb : (Phase.live d).OnBeat period now since pings) (hd : d ≤ now) :
    (Phase.pinging (nextTick period d now)).OnBeat period now since pings := by
  obtain ⟨rfl, hle⟩ := hb
  obtain rfl := Nat.le_antisymm hle hd
  refine ⟨?_, rfl⟩
  rw [nextTick, if_neg (by omega), Nat.add_assoc, Nat.add_mul (pings + 1), Nat.one_mul]

theorem Rhythm.act (r : s.Rhythm) (h : s.Tracked) (hd : s.Dated) (ha : s.act? = some s') :
    s'.Rhythm := by
  refine r.of_not_hand (m := .act) h ha nofun nofun ?_ ?_
  · intro hp since pings hb
    obtain ⟨d, hphase, hs⟩ := act_cases (ticking_of_not_hand (t := .move .act) ha nofun nofun hp) ha
    rw [hphase] at hb
    rcases hs with ⟨-, rfl⟩ | ⟨x, rest, rfl⟩ | ⟨hdue, rfl⟩
    · exact hp.elim
    · exact hb
    · exact onBeat_tick hb hdue
  · intro hp
    obtain ⟨d, -, ⟨hc, rfl⟩ | ⟨x, rest, rfl⟩ | ⟨-, rfl⟩⟩ := act_cases hp ha
    · exact .inr (silencedBy_of_cancelled h hd hc _)
    · exact .inl trivial
    · exact .inl trivial

/-- Time passes up to the next heartbeat, and not while a line is being handed over. -/
theorem Rhythm.elapse (r : s.Rhythm) (h : s.Tracked) {n : Nat} (ht : s.elapse? n = some s')
    (honce : s.pending?.isSome = true → s'.now = s.now) : s'.Rhythm := by
  refine r.of_not_hand (m := .elapse n) h ht nofun nofun ?_ ?_
  · intro hp since pings hb
    obtain ⟨⟨-, htimer⟩, hs⟩ := Option.ite_none_right_eq_some.mp ht
    obtain rfl := Option.some.inj hs
    cases hphase : s.phase with
    | live d =>
      have htimer : s.now + n ≤ d := htimer d (by rw [timer?, hphase]; rfl)
      rw [hphase] at hb
      exact ⟨hb.1, htimer⟩
    | sending x d | pinging d =>
      rw [hphase] at hb
      rw [honce (by rw [pending?, hphase]; rfl)]
      exact hb
    | _ => trivial
  · intro hp
    obtain ⟨-, hs⟩ := Option.ite_none_right_eq_some.mp ht
    exact .inl (Option.some.inj hs ▸ hp)

/-- A heartbeat goes over, or fails, at its time. -/
theorem Rhythm.past_hand (r : s.Rhythm) {source : Source} {line : String}
    (hp : s.pending? = some (source, line)) {ev : Event}
    (hev : ev.handover? = some ⟨s.connections, source, line⟩) {e : Stamped} {past : List Stamped}
    {c : Nat} {line' : String} (he : e :: past <:+ ⟨s.now, ev⟩ :: s.history)
    (ho : e.event.handover? = some ⟨c, .heartbeat, line'⟩) {since : Nat} {l : String}
    (hg : ⟨since, .handed c .greeting l⟩ ∈ past) :
    e.time = since + (pingsOn c past + 1) * s.settings.heartbeat := by
  rcases List.suffix_cons_iff.mp he with heq | hs
  · obtain ⟨rfl, rfl⟩ := List.cons.inj heq
    obtain ⟨rfl, rfl, rfl⟩ := Handover.mk.inj (Option.some.inj (hev.symm.trans ho))
    have hb := r.beat since l hg
    cases hphase : s.phase with
    | pinging d =>
      rw [hphase] at hb
      exact hb.2
    | _ => simp [pending?, hphase] at hp
  · exact r.past e past c line' hs ho since l hg

/-- A line that goes over, or fails. -/
theorem Rhythm.of_hand (r : s.Rhythm) {source : Source} {line : String}
    (hp : s.pending? = some (source, line)) {ev : Event}
    (hev : ev.handover? = some ⟨s.connections, source, line⟩)
    (hadds : Adds (·.handover? = none) (⟨s.now, ev⟩ :: s.history) s'.history)
    (hsettings : s'.settings = s.settings) (hconn : s'.connections = s.connections)
    (hbeat : ∀ since l, ⟨since, .handed s.connections .greeting l⟩ ∈ s'.history →
      s'.phase.OnBeat s.settings.heartbeat s'.now since (pingsOn s.connections s'.history))
    (hkept : ∀ since l, ⟨since, .handed s.connections .greeting l⟩ ∈ s'.history →
      s'.phase.IsTicking ∨ SilencedBy s.connections (s'.beatDue s.connections since) s'.history) :
    s'.Rhythm := by
  constructor
  · rw [hconn, hsettings]
    exact hbeat
  · intro e past c line he ho since l hg
    rw [hsettings]
    exact r.past_hand hp hev (hadds.suffix_of_handover he (ho ▸ nofun)) ho hg
  · intro since c l hg
    by_cases hc : c = s.connections
    · subst hc
      exact (hkept since l hg).imp_left fun ht => ⟨hconn.symm, ht⟩
    · rcases List.mem_cons.mp (hadds.mem_of_handover hg nofun) with heq | hmem
      · obtain ⟨-, rfl⟩ := Stamped.mk.inj heq
        exact absurd (congrArg Handover.connection (Option.some.inj hev)) hc
      · refine .inr (r.silenced ?_ hsettings hmem fun heq => absurd heq hc)
        exact (List.suffix_cons _ _).trans hadds.suffix

theorem Rhythm.handFailed (r : s.Rhythm) {source : Source} {line : String}
    (hp : s.pending? = some (source, line)) :
    ((s.record (.handFailed s.connections source line)).goTo (.ended .failed)).Rhythm := by
  have hsuffix : s.history <:+ ((s.record (.handFailed s.connections source line)).goTo
      (.ended .failed)).history := List.suffix_cons _ _
  refine r.of_hand hp rfl .refl rfl rfl (fun _ _ _ => trivial) fun since l hg => .inr ?_
  have hmem := (List.mem_cons.mp hg).resolve_left fun heq => nomatch (Stamped.mk.inj heq).2
  refine r.silenced hsuffix rfl hmem fun _ _ => ?_
  exact ⟨_, List.mem_cons_self, Nat.le_refl _, .inl (.inl rfl)⟩

/-- The first line goes over: the heartbeats are set from now on, or the session crashes. -/
theorem Rhythm.greeted (r : s.Rhythm) (h : s.Tracked) (hphase : s.phase = .greeting) :
    (s.record (.handed s.connections .greeting s.settings.syncLine)).setHeartbeat.Rhythm := by
  have hp : s.pending? = some (.greeting, s.settings.syncLine) := by rw [pending?, hphase]
  have hsilent : handoversOn s.connections s.history = [] := by
    obtain ⟨q, ht, hs⟩ := h
    have hq : q.stage = .connected := by
      have fits := hs.fits
      rwa [hphase] at fits
    rw [hs.connection]
    exact ht.silent (by rw [hq]; rfl)
  have hpings : pingsOn s.connections (s.record (.handed s.connections .greeting
      s.settings.syncLine)).history = 0 := by
    have hother := pingsOn_cons_of_handover (h := s.history) (e := ⟨s.now, .handed s.connections
      .greeting s.settings.syncLine⟩) (o := ⟨s.connections, .greeting, s.settings.syncLine⟩) rfl
    refine hother.trans ?_
    rw [pingsOn, hsilent]
    rfl
  have hsince {since : Nat} {l : String} (hg : ⟨since, .handed s.connections .greeting l⟩ ∈
      (s.record (.handed s.connections .greeting s.settings.syncLine)).history) :
      since = s.now := by
    rcases List.mem_cons.mp hg with heq | hmem
    · exact congrArg Stamped.time heq
    · exact absurd (mem_handoversOn.mpr ⟨rfl, _, hmem, rfl⟩) (hsilent ▸ List.not_mem_nil)
  unfold setHeartbeat
  split
  · refine r.of_hand hp rfl .refl rfl rfl (fun since l hg => ?_) fun _ _ _ => .inl trivial
    obtain rfl := hsince hg
    change (Phase.live (s.now + s.settings.heartbeat)).OnBeat _ s.now s.now (pingsOn s.connections
      (s.record (.handed s.connections .greeting s.settings.syncLine)).history)
    rw [hpings]
    exact ⟨by rw [Nat.zero_add, Nat.one_mul], Nat.le_add_right _ _⟩
  · refine r.of_hand hp rfl (Adds.refl.cons _ rfl) rfl rfl (fun _ _ _ => trivial) fun since l hg => ?_
    have hmem := (List.mem_cons.mp hg).resolve_left fun heq =>
      Event.noConfusion (Stamped.mk.inj heq).2
    obtain rfl := hsince hmem
    exact .inr ⟨_, List.mem_cons_self, Nat.le_add_right _ _, .inl (.inr (.inr (.inr rfl)))⟩

/-- A later line goes over: heartbeats that are set stay so, and one that has gone over counts. -/
theorem Rhythm.sent (r : s.Rhythm) {source : Source} {line : String} {p : Phase}
    (hp : s.pending? = some (source, line)) (hsource : source ≠ .greeting)
    (hticking : s.phase.IsTicking → p.IsTicking)
    (hbeat : ∀ since pings, s.phase.OnBeat s.settings.heartbeat s.now since pings →
      p.OnBeat s.settings.heartbeat s.now since
        (pings + if source = .heartbeat then 1 else 0)) :
    ((s.record (.handed s.connections source line)).goTo p).Rhythm := by
  have old {since : Nat} {l : String} (hg : ⟨since, .handed s.connections .greeting l⟩ ∈
      (s.record (.handed s.connections source line)).history) :
      ⟨since, .handed s.connections .greeting l⟩ ∈ s.history := by
    refine (List.mem_cons.mp hg).resolve_left fun heq => hsource ?_
    exact (Event.handed.inj (Stamped.mk.inj heq).2).2.1.symm
  refine r.of_hand hp rfl .refl rfl rfl (fun since l hg => ?_) fun since l hg => ?_
  · have hpings : pingsOn s.connections (s.record (.handed s.connections source line)).history =
        pingsOn s.connections s.history + if source = .heartbeat then 1 else 0 :=
      pingsOn_cons_of_handover (o := ⟨s.connections, source, line⟩) rfl
    exact hpings ▸ hbeat since _ (r.beat since l (old hg))
  · have hsuffix : s.history <:+ ((s.record (.handed s.connections source line)).goTo p).history :=
      List.suffix_cons _ _
    rcases r.kept since _ l (old hg) with ⟨-, ht⟩ | hs
    · exact .inl (hticking ht)
    · exact .inr (hs.mono (beatDue_mono hsuffix rfl _ _) hsuffix)

theorem Rhythm.handed (r : s.Rhythm) (h : s.Tracked) {source : Source} {line : String}
    (hp : s.pending? = some (source, line)) :
    (s.record (.handed s.connections source line)).afterHanding.Rhythm := by
  cases hphase : s.phase with
  | greeting =>
    obtain ⟨rfl, rfl⟩ : .greeting = source ∧ s.settings.syncLine = line := by
      simpa [pending?, hphase] using hp
    have hafter : (s.record (.handed s.connections .greeting s.settings.syncLine)).afterHanding =
        (s.record (.handed s.connections .greeting s.settings.syncLine)).setHeartbeat := by
      rw [afterHanding, record, hphase]
    exact hafter ▸ r.greeted h hphase
  | sending x d =>
    obtain ⟨rfl, rfl⟩ : .call x.call = source ∧ x.line = line := by
      simpa [pending?, hphase] using hp
    rw [afterHanding, show (s.record _).phase = _ from hphase]
    refine r.sent hp (by simp) (fun _ => trivial) fun since pings hb => ?_
    rw [hphase] at hb
    exact hb
  | pinging d =>
    obtain ⟨rfl, rfl⟩ : .heartbeat = source ∧ s.settings.pingLine = line := by
      simpa [pending?, hphase] using hp
    rw [afterHanding, show (s.record _).phase = _ from hphase]
    refine r.sent hp (by simp) (fun _ => trivial) fun since pings hb => ?_
    rw [hphase] at hb
    obtain ⟨rfl, hnow⟩ := hb
    refine ⟨rfl, ?_⟩
    rw [hnow]
    exact Nat.add_le_add_left (Nat.mul_le_mul_right _ (Nat.le_succ _)) _
  | flushSending x =>
    obtain ⟨rfl, rfl⟩ : .call x.call = source ∧ x.line = line := by
      simpa [pending?, hphase] using hp
    rw [afterHanding, show (s.record _).phase = _ from hphase]
    exact r.sent hp (by simp) (fun ht => (hphase ▸ ht).elim) fun _ _ _ => trivial
  | _ => simp [pending?, hphase] at hp

theorem Rhythm.move (r : s.Rhythm) (h : s.Tracked) (hd : s.Dated) (ht : s.move? m = some s')
    (honce : s.pending?.isSome = true → s'.now = s.now) : s'.Rhythm := by
  cases m with
  | act => exact r.act h hd ht
  | elapse n => exact r.elapse h ht honce
  | handed =>
    obtain ⟨source, line, hp, rfl⟩ := of_handed? ht
    exact r.handed h hp
  | handFailed =>
    obtain ⟨⟨source, line⟩, hp, rfl⟩ := Option.map_eq_some_iff.mp ht
    exact r.handFailed hp
  | call q =>
    refine r.of_not_leaves h ht nofun nofun ?_ fun _ => id
    exact Option.some.inj ht ▸ now_call s q
  | received line =>
    refine r.of_not_leaves h ht nofun nofun ?_ fun _ => id
    obtain ⟨-, hs⟩ := Option.ite_none_right_eq_some.mp ht
    exact Option.some.inj hs ▸ now_ingest s line
  | resume id =>
    refine r.of_not_leaves h ht nofun nofun (now_resume ht) fun hp hl => ?_
    have hidle : s.phase = .idle := hl
    exact (hidle ▸ hp : Phase.idle.IsTicking)
  | opened | refused =>
    obtain ⟨⟨hp, -⟩, hs⟩ := Option.ite_none_right_eq_some.mp ht
    refine r.of_not_leaves h ht nofun nofun (Option.some.inj hs ▸ rfl) fun ht _ => ?_
    exact (hp ▸ ht : Phase.opening.IsTicking)
  | closed =>
    obtain ⟨⟨d, hp⟩, rfl⟩ := of_closed? ht
    refine r.of_not_leaves h ht nofun nofun rfl fun ht _ => ?_
    exact (hp ▸ ht : (Phase.closing d).IsTicking)
  | faulted | hungUp =>
    obtain ⟨-, hs⟩ := Option.ite_none_right_eq_some.mp ht
    obtain rfl := Option.some.inj hs
    refine r.of_not_hand h ht nofun nofun (fun hp => hp.elim) fun _ => .inr ?_
    refine ⟨_, List.mem_cons_self, Nat.le_refl _, .inl ?_⟩
    first | exact .inl rfl | exact .inr (.inl rfl)

/-- Whether every hand-over completes at once: no time passes while a line is being handed over. -/
def HandsAtOnce (s : State) : List Move → Prop
  | [] => True
  | m :: ms => (s.pending?.isSome = true → (s.turn (.move m)).now = s.now) ∧
      (s.turn (.move m)).HandsAtOnce ms

instance decidableHandsAtOnce (s : State) : (ms : List Move) → Decidable (s.HandsAtOnce ms)
  | [] => isTrue trivial
  | m :: ms =>
    have := decidableHandsAtOnce (s.turn (.move m)) ms
    inferInstanceAs (Decidable (_ ∧ _))

theorem handsAtOnce_concat {ms : List Move} (h : s.HandsAtOnce (ms ++ [m])) : s.HandsAtOnce ms ∧
    ((s.play ms).pending?.isSome = true → ((s.play ms).turn (.move m)).now = (s.play ms).now) := by
  induction ms generalizing s with
  | nil => exact ⟨trivial, h.1⟩
  | cons n ms ih =>
    obtain ⟨hn, hms⟩ := h
    obtain ⟨hms, hm⟩ := ih hms
    exact ⟨⟨hn, hms⟩, hm⟩

theorem play_rhythm (k : KeypadSettings) {ms : List Move} (hms : (init k).HandsAtOnce ms) :
    ((init k).play ms).Rhythm := by
  induction ms using List.reverseRecOn with
  | nil =>
    constructor
    · exact fun _ _ hg => nomatch hg
    · exact fun _ _ _ _ he => absurd (List.suffix_nil.mp he) (List.cons_ne_nil _ _)
    · exact fun _ _ _ hg => nomatch hg
  | append_singleton ms m ih =>
    obtain ⟨hms, hm⟩ := handsAtOnce_concat hms
    rw [play_concat]
    cases ht : ((init k).play ms).move? m with
    | none => exact (turn_eq_self (t := .move m) ht).symm ▸ ih hms
    | some s' =>
      rw [turn_eq (t := .move m) ht] at hm ⊢
      exact (ih hms).move (run_tracked k _) (run_dated k _) ht hm

/-- A heartbeat that is due is waiting for the session only. -/
theorem act_isSome_of_live {d : Nat} (hp : s.phase = .live d) (hd : d ≤ s.now) :
    s.act?.isSome = true := by
  rw [act?, hp]
  dsimp only
  rw [if_pos hd]
  split
  · rfl
  · split <;> rfl

/-- No heartbeat is missing whose time is over, unless they had been ended by then. -/
theorem Rhythm.complete (r : s.Rhythm) {c since j : Nat} {l : String}
    (hg : ⟨since, .handed c .greeting l⟩ ∈ s.history)
    (hj : s.IsOverdue (since + j * s.settings.heartbeat)) :
    j ≤ pingsOn c s.history ∨ SilencedBy c (since + j * s.settings.heartbeat) s.history := by
  rcases Nat.lt_or_ge (pingsOn c s.history) j with hlt | hle
  · have hdue : s.beatDue c since ≤ since + j * s.settings.heartbeat :=
      Nat.add_le_add_left (Nat.mul_le_mul_right _ hlt) _
    rcases r.kept since c l hg with ⟨rfl, hp⟩ | hs
    · exfalso
      have hnow := r.now_le hp hg
      rcases hj with hpast | ⟨heq, hact, hpending⟩
      · omega
      · have hb := r.beat since l hg
        cases hphase : s.phase with
        | live d =>
          rw [hphase] at hb
          have hd : d ≤ s.now := Nat.le_trans (Nat.le_of_eq hb.1) (heq ▸ hdue)
          exact absurd (act_isSome_of_live hphase hd) (by simp [hact])
        | sending x d | pinging d => simp [pending?, hphase] at hpending
        | _ => exact (hphase ▸ hp).elim
    · exact .inr (hs.mono hdue (List.suffix_refl _))
  · exact .inl hle

/-- The heartbeats of a connection that was greeted at `since`. On every run each is no earlier than
its number of periods after that, so they are no more than the periods that have passed by any time;
and each is begun by a tick of the connection, which begins no other. In virtual time, where every
hand-over completes at once, each is at exactly its time, and none is missing whose time is over
unless the connection had ended or shutdown had been called by then. -/
theorem heartbeat_schedule (k : KeypadSettings) (hk : 0 < k.heartbeat) (ts : List Turn)
    (c since : Nat) :
    let s := (init k).run ts
    ⟨since, .handed c .greeting k.syncLine⟩ ∈ s.history →
      (∀ e past line, e :: past <:+ s.history →
        e.event.handover? = some ⟨c, .heartbeat, line⟩ →
        since + (pingsOn c past + 1) * k.heartbeat ≤ e.time) ∧
      (∀ t, pingsOn c (s.history.filter (·.time ≤ t)) ≤ (t - since) / k.heartbeat) ∧
      ((init k).ticksOn c ts).length = s.beatsOn c ∧
      (∀ n u, ((init k).ticksOn c ts)[n]? = some u → since + (n + 1) * k.heartbeat ≤ u) ∧
      ∀ ms, ts = ms.map .move → (init k).HandsAtOnce ms →
        (∀ e past line, e :: past <:+ s.history →
          e.event.handover? = some ⟨c, .heartbeat, line⟩ →
          e.time = since + (pingsOn c past + 1) * k.heartbeat) ∧
        ∀ j, s.IsOverdue (since + j * k.heartbeat) →
          j ≤ pingsOn c s.history ∨ SilencedBy c (since + j * k.heartbeat) s.history := by
  intro s hg
  obtain ⟨q, hq⟩ := run_tracks k ts
  have hsettings : s.settings = k := settings_run _ ts
  have hearly : ∀ e past line, e :: past <:+ s.history →
      e.event.handover? = some ⟨c, .heartbeat, line⟩ →
      since + (pingsOn c past + 1) * k.heartbeat ≤ e.time :=
    fun e past line he ho => (hq.heartbeat_not_early hg he ho).2
  refine ⟨hearly, fun t => ?_, length_ticksOn k c ts, fun n u hu => ?_, ?_⟩
  · apply (Nat.le_div_iff_mul_le hk).mpr
    rcases pingsOn_by hearly t with hzero | hle
    · rw [hzero, Nat.zero_mul]
      exact Nat.zero_le _
    · exact Nat.le_sub_of_add_le (Nat.add_comm _ _ ▸ hle)
  · obtain ⟨since', hg', hle⟩ := ticksOn_not_early k ts hu
    obtain rfl := hq.greeting_unique hg hg'
    exact hle
  · rintro ms rfl honce
    have rhythm : s.Rhythm := play_rhythm k honce
    refine ⟨fun e past line he ho => ?_, fun j hj => ?_⟩
    · have hpast := (hq.heartbeat_not_early hg he ho).1
      exact hsettings ▸ rhythm.past e past c line he ho since _ hpast
    · exact hsettings ▸ rhythm.complete hg (hsettings.symm ▸ hj)

/-- Two heartbeats, with a line between them; then the device hangs up. -/
def twoHeartbeats : List Move :=
  [.call .connect, .resume 0, .act, .act, .opened, .act, .act, .handed, .elapse 15000, .act,
    .handed, .elapse 2000, .call .sync, .resume 1, .act, .handed, .elapse 13000, .act, .handed,
    .hungUp]

set_option maxRecDepth 10000 in
theorem heartbeat_schedule_two :
    let ts := twoHeartbeats.map Turn.move
    let s := (init .default).run ts
    0 < KeypadSettings.default.heartbeat ∧
      ⟨0, .handed 1 .greeting "!SYNC:0,0"⟩ ∈ s.history ∧ (init .default).HandsAtOnce twoHeartbeats ∧
      (init .default).ticksOn 1 ts = [15000, 30000] ∧ s.beatsOn 1 = 2 ∧
      pingsOn 1 (s.history.filter (·.time ≤ 29999)) ≤ 29999 / 15000 ∧
      (1 ≤ pingsOn 1 s.history ∨ SilencedBy 1 15000 s.history) := by
  intro ts s
  have hg : ⟨0, .handed 1 .greeting "!SYNC:0,0"⟩ ∈ s.history := by decide +kernel
  have honce : (init .default).HandsAtOnce twoHeartbeats := by decide +kernel
  have hticks : (init .default).ticksOn 1 ts = [15000, 30000] := by decide +kernel
  obtain ⟨-, hby, hcount, -, hexact⟩ := heartbeat_schedule .default (by decide) ts 1 0 hg
  refine ⟨by decide, hg, honce, hticks, ?_, hby 29999, ?_⟩
  · rw [← hcount, hticks]
    rfl
  · have hover : s.IsOverdue 15000 := .inl (by decide +kernel)
    exact (hexact twoHeartbeats rfl honce).2 1 hover

end State
end AlarmKeypad.Session
