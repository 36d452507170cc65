import AlarmKeypad.Proofs.Session.Reading
import AlarmKeypad.Proofs.Session.Run
/-!
# Every history follows the protocol

The state of a keypad stands for the track that its history has led to: each phase belongs to a
stage, the line that is being handed over still waits, and no heartbeat is set before its time.
-/

namespace AlarmKeypad.Session

/-- A tick that is not early for its number makes the next tick not early for the next number. -/
theorem le_nextTick {interval due now since n : Nat} (h : since + n * interval ≤ due)
    (hdue : due ≤ now) : since + (n + 1) * interval ≤ nextTick interval due now := by
  rw [Nat.add_mul, Nat.one_mul]
  unfold nextTick
  split <;> omega

namespace Phase

/-- The line that has been taken from the queue and is being handed over. -/
def inHand : Phase → List Ticket
  | .sending t _ | .flushSending t => [t]
  | _ => []

/-- The stages that a phase belongs to, with heartbeats every `period`. -/
def Fits (period now : Nat) (cancelled : Bool) (g : Stage) : Phase → Prop
  | .idle | .starting | .parted | .resting _ | .finished => g = .away
  | .dialing | .opening => g = .dialing
  | .draining => g = .draining
  | .announcing => g = .drained
  | .greeting => g = .connected
  | .live d | .sending _ d =>
    ∃ since pings, g = .greeted since pings ∧ since + (pings + 1) * period ≤ d
  | .pinging d => ∃ since pings, g = .greeted since pings ∧
      since + (pings + 1) * period ≤ now ∧ since + (pings + 1 + 1) * period ≤ d
  | .flushing | .flushSending _ | .ended .shutdown =>
    (∃ since pings, g = .greeted since pings) ∧ cancelled = true
  | .ended .failed => g = .failed
  | .ended .hungUp => g = .hungUp
  | .closing _ => g = .closing
  | .leaving => g = .dialing ∨ g = .lost ∨ g = .closed
  | .crashed => g = .crashed

/-- A later time and a call for shutdown take no phase out of its stage. -/
theorem Fits.mono {period now now' : Nat} {c c' : Bool} {g : Stage} {p : Phase}
    (h : p.Fits period now c g) (hn : now ≤ now') (hc : c = true → c' = true) :
    p.Fits period now' c' g := by
  cases p with
  | pinging d =>
    obtain ⟨since, pings, hg, hs, hd⟩ := h
    exact ⟨since, pings, hg, Nat.le_trans hs hn, hd⟩
  | flushing => exact ⟨h.1, hc h.2⟩
  | flushSending t => exact ⟨h.1, hc h.2⟩
  | ended e =>
    cases e with
    | shutdown => exact ⟨h.1, hc h.2⟩
    | hungUp => exact h
    | failed => exact h
  | _ => exact h

end Phase

namespace State

/-- The state stands for a track. -/
structure Stands (s : State) (q : Track) : Prop where
  fits : s.phase.Fits s.settings.heartbeat s.now s.cancelled q.stage
  published : s.published = q.stage.published
  connection : s.connections = q.connection
  waiting : s.phase.inHand ++ s.queue = q.waiting
  told : s.cancelled = q.told

def Tracked (s : State) : Prop := ∃ q, Tracks s.settings s.history q ∧ s.Stands q

theorem tracked_init (k : KeypadSettings) : (init k).Tracked :=
  ⟨_, .start, rfl, rfl, rfl, rfl, rfl⟩

/-- The session's own steps. -/
theorem Tracked.act {s s' : State} (h : s.Tracked) (ha : s.act? = some s') : s'.Tracked := by
  obtain ⟨⟨g, n, w, b⟩, ht, hs⟩ := h
  obtain ⟨k, now, phase, cancelled, joinable, published, mode, tracker, snapshot, queue, calls,
    callCount, attempts, connections, history⟩ := s
  obtain ⟨fits, hpub, rfl, rfl, rfl⟩ := hs
  obtain rfl : published = g.published := hpub
  cases phase with
  | idle => exact absurd ha (by simp [act?])
  | starting =>
    obtain rfl : g = .away := fits
    obtain rfl := Option.some.inj ha
    exact ⟨_, ht.next (.dial ..), rfl, rfl, rfl, rfl, rfl⟩
  | dialing =>
    obtain rfl : g = .dialing := fits
    cases cancelled with
    | true =>
      obtain rfl := Option.some.inj ha
      exact ⟨_, ht, .inl rfl, rfl, rfl, rfl, rfl⟩
    | false =>
      obtain rfl := Option.some.inj ha
      exact ⟨_, ht.next (.attempt ..), rfl, rfl, rfl, rfl, rfl⟩
  | opening =>
    obtain rfl : g = .dialing := fits
    cases cancelled with
    | true =>
      obtain rfl := Option.some.inj ha
      exact ⟨_, ht, .inl rfl, rfl, rfl, rfl, rfl⟩
    | false => exact absurd ha (by simp [act?])
  | draining =>
    obtain rfl : g = .draining := fits
    cases queue with
    | nil =>
      obtain rfl := Option.some.inj ha
      exact ⟨_, ht.next (.drain ..), rfl, rfl, rfl, rfl, rfl⟩
    | cons x r =>
      obtain rfl := Option.some.inj ha
      exact ⟨_, ht.next (.discard ..), rfl, rfl, rfl, rfl, rfl⟩
  | announcing =>
    obtain rfl : g = .drained := fits
    obtain rfl := Option.some.inj ha
    exact ⟨_, ht.next (.connect ..), rfl, rfl, rfl, rfl, rfl⟩
  | greeting => exact absurd ha (by simp [act?])
  | live d =>
    obtain ⟨since, pings, hg, hd⟩ := fits
    obtain rfl : g = .greeted since pings := hg
    cases cancelled with
    | true =>
      obtain rfl := Option.some.inj ha
      exact ⟨_, ht, ⟨⟨since, pings, rfl⟩, rfl⟩, rfl, rfl, rfl, rfl⟩
    | false =>
      cases queue with
      | cons x r =>
        -- the line that is taken in hand is still the first of those that wait
        obtain rfl := Option.some.inj ha
        exact ⟨_, ht, ⟨since, pings, rfl, hd⟩, rfl, rfl, rfl, rfl⟩
      | nil =>
        by_cases hdue : d ≤ now
        · obtain rfl := Option.some.inj ((if_pos hdue).symm.trans ha)
          exact ⟨_, ht, ⟨since, pings, rfl, Nat.le_trans hd hdue, le_nextTick hd hdue⟩,
            rfl, rfl, rfl, rfl⟩
        · exact absurd ((if_neg hdue).symm.trans ha) (by simp)
  | sending t d => exact absurd ha (by simp [act?])
  | pinging d => exact absurd ha (by simp [act?])
  | flushing =>
    obtain ⟨⟨since, pings, hg⟩, hc⟩ := fits
    obtain rfl : g = .greeted since pings := hg
    cases queue with
    | nil =>
      obtain rfl := Option.some.inj ha
      exact ⟨_, ht, ⟨⟨since, pings, rfl⟩, hc⟩, rfl, rfl, rfl, rfl⟩
    | cons x r =>
      obtain rfl := Option.some.inj ha
      exact ⟨_, ht, ⟨⟨since, pings, rfl⟩, hc⟩, rfl, rfl, rfl, rfl⟩
  | flushSending t => exact absurd ha (by simp [act?])
  | ended e =>
    cases e with
    | hungUp =>
      obtain rfl : g = .hungUp := fits
      obtain rfl := Option.some.inj ha
      exact ⟨_, ht.next (.lose ..), .inr (.inl rfl), rfl, rfl, rfl, rfl⟩
    | failed =>
      obtain rfl : g = .failed := fits
      obtain rfl := Option.some.inj ha
      exact ⟨_, (ht.next (.abandon ..)).next (.closing ..), rfl, rfl, rfl, rfl, rfl⟩
    | shutdown =>
      obtain ⟨⟨since, pings, hg⟩, hc⟩ := fits
      obtain rfl : g = .greeted since pings := hg
      obtain rfl : cancelled = true := hc
      obtain rfl := Option.some.inj ha
      exact ⟨_, (ht.next (.stop ..)).next (.closing ..), rfl, rfl, rfl, rfl, rfl⟩
  | closing d =>
    obtain rfl : g = .closing := fits
    by_cases hdue : d ≤ now
    · obtain rfl := Option.some.inj ((if_pos hdue).symm.trans ha)
      exact ⟨_, ht.next (.close ..), .inr (.inr rfl), rfl, rfl, rfl, rfl⟩
    · exact absurd ((if_neg hdue).symm.trans ha) (by simp)
  | leaving =>
    obtain rfl := Option.some.inj ha
    -- an attempt that has failed, a device that is gone or a connection that was closed
    rcases fits with hg | hg | hg
    · obtain rfl : g = .dialing := hg
      exact ⟨_, ht.next (.giveUp ..), rfl, rfl, rfl, rfl, rfl⟩
    · obtain rfl : g = .lost := hg
      exact ⟨_, ht.next (.part ..), rfl, rfl, rfl, rfl, rfl⟩
    · obtain rfl : g = .closed := hg
      exact ⟨_, ht.next (.leave ..), rfl, rfl, rfl, rfl, rfl⟩
  | parted =>
    obtain rfl : g = .away := fits
    obtain rfl := Option.some.inj ha
    cases cancelled <;> exact ⟨_, ht, rfl, rfl, rfl, rfl, rfl⟩
  | resting d =>
    obtain rfl : g = .away := fits
    cases cancelled with
    | true =>
      obtain rfl := Option.some.inj ha
      exact ⟨_, ht, rfl, rfl, rfl, rfl, rfl⟩
    | false =>
      by_cases hdue : d ≤ now
      · obtain rfl := Option.some.inj ((if_pos hdue).symm.trans ha)
        exact ⟨_, ht, rfl, rfl, rfl, rfl, rfl⟩
      · exact absurd ((if_neg hdue).symm.trans ha) (by simp)
  | finished => exact absurd ha (by simp [act?])
  | crashed => exact absurd ha (by simp [act?])

/-- The first line has gone over: the heartbeat is set, or the session crashes. -/
theorem setHeartbeat_tracked {s : State} {n : Nat} {w : List Ticket} {b : Bool}
    (ht : Tracks s.settings s.history ⟨.greeted s.now 0, n, w, b⟩)
    (hp : s.published = .connected) (hn : s.connections = n) (hw : s.queue = w)
    (hb : s.cancelled = b) : s.setHeartbeat.Tracked := by
  subst hn
  unfold setHeartbeat
  split
  · have hd : s.now + (0 + 1) * s.settings.heartbeat ≤ s.now + s.settings.heartbeat := by
      omega
    exact ⟨_, ht, ⟨s.now, 0, rfl, hd⟩, hp, rfl, hw, hb⟩
  · exact ⟨_, ht.next (.crash ..), rfl, hp, rfl, hw, hb⟩

/-- The line that is being handed over is one that may be, whatever comes of it. -/
theorem Tracked.hand {s : State} (h : s.Tracked) {source : Source} {line : String}
    (hp : s.pending? = some (source, line)) :
    (s.record (.handed s.connections source line)).afterHanding.Tracked ∧
      ((s.record (.handFailed s.connections source line)).goTo (.ended .failed)).Tracked := by
  obtain ⟨⟨g, n, w, b⟩, ht, hs⟩ := h
  obtain ⟨k, now, phase, cancelled, joinable, published, mode, tracker, snapshot, queue, calls,
    callCount, attempts, connections, history⟩ := s
  obtain ⟨fits, hpub, rfl, rfl, rfl⟩ := hs
  obtain rfl : published = g.published := hpub
  cases phase with
  | greeting =>
    obtain rfl : g = .connected := fits
    obtain ⟨rfl, rfl⟩ := Prod.mk.inj (Option.some.inj hp)
    exact ⟨setHeartbeat_tracked (ht.next (.hand (.greeting ..))) rfl rfl rfl rfl,
      _, ht.next (.fail (.greeting ..)), rfl, rfl, rfl, rfl, rfl⟩
  | sending x d =>
    obtain ⟨since, pings, hg, hd⟩ := fits
    obtain rfl : g = .greeted since pings := hg
    obtain ⟨rfl, rfl⟩ := Prod.mk.inj (Option.some.inj hp)
    exact ⟨⟨_, ht.next (.hand (.ticket ..)), ⟨since, pings, rfl, hd⟩, rfl, rfl, rfl, rfl⟩,
      _, ht.next (.fail (.ticket ..)), rfl, rfl, rfl, rfl, rfl⟩
  | flushSending x =>
    obtain ⟨⟨since, pings, hg⟩, hc⟩ := fits
    obtain rfl : g = .greeted since pings := hg
    obtain ⟨rfl, rfl⟩ := Prod.mk.inj (Option.some.inj hp)
    exact ⟨⟨_, ht.next (.hand (.ticket ..)), ⟨⟨since, pings, rfl⟩, hc⟩, rfl, rfl, rfl, rfl⟩,
      _, ht.next (.fail (.ticket ..)), rfl, rfl, rfl, rfl, rfl⟩
  | pinging d =>
    obtain ⟨since, pings, hg, hdue, hd⟩ := fits
    obtain rfl : g = .greeted since pings := hg
    obtain ⟨rfl, rfl⟩ := Prod.mk.inj (Option.some.inj hp)
    -- this heartbeat is due, and the next has been set a period later
    have ping := Track.Hands.heartbeat (k := k) since pings connections queue cancelled now hdue
    exact ⟨⟨_, ht.next (.hand ping), ⟨since, pings + 1, rfl, hd⟩, rfl, rfl, rfl, rfl⟩,
      _, ht.next (.fail ping), rfl, rfl, rfl, rfl, rfl⟩
  | _ => exact absurd hp (by simp [pending?])

/-- An event that leaves every track as it is. -/
theorem Tracked.aside {s : State} (h : s.Tracked) {e : Event}
    (he : ∀ q, Track.Next s.settings q ⟨s.now, e⟩ q) : (s.record e).Tracked := by
  obtain ⟨q, ht, fits, hp, hc, hw, hb⟩ := h
  exact ⟨q, ht.next (he q), fits, hp, hc, hw, hb⟩

theorem Tracked.withCalls {s : State} (h : s.Tracked) (cs : List (Nat × Call)) :
    { s with calls := cs }.Tracked := by
  obtain ⟨q, ht, fits, hp, hc, hw, hb⟩ := h
  exact ⟨q, ht, fits, hp, hc, hw, hb⟩

theorem Tracked.returned {s : State} (h : s.Tracked) (id : Nat) (r : Reply) :
    (s.returned id r).Tracked :=
  (h.withCalls _).aside fun q => .returned q s.now id r

theorem Tracked.offer {s : State} (h : s.Tracked) (id : Nat) (line : String) :
    (s.offer id line).Tracked := by
  unfold State.offer
  split
  · exact h.withCalls _
  · exact h.returned id _

/-- A call has begun; one for shutdown is heard at once. -/
theorem Tracked.called {s : State} (h : s.Tracked) (r : Request) {c : Bool}
    (hc : c = (s.cancelled || decide (r = .shutdown))) :
    ({ s with callCount := s.callCount + 1, cancelled := c }.record
      (.called s.callCount r)).Tracked := by
  obtain ⟨⟨g, n, w, b⟩, ht, fits, hp, hn, hw, hb⟩ := h
  obtain rfl : s.cancelled = b := hb
  refine ⟨_, ht.next (.called ..), fits.mono (Nat.le_refl _) ?_, hp, hn, hw, hc⟩
  intro hs
  change c = true
  rw [hc, hs, Bool.true_or]

theorem Tracked.call {s : State} (h : s.Tracked) (r : Request) : (s.call r).Tracked := by
  cases r with
  | connect =>
    have hs := h.called .connect (Bool.or_false _).symm
    unfold State.call
    dsimp only
    split
    · exact hs.returned _ _
    · exact hs.withCalls _
  | shutdown => exact (h.called .shutdown (Bool.or_true _).symm).withCalls _
  | command token =>
    have hs := h.called (.command token) (Bool.or_false _).symm
    unfold State.call
    dsimp only
    split
    · exact hs.returned _ _
    · exact hs.offer _ _
  | sync => exact (h.called .sync (Bool.or_false _).symm).offer _ _

/-- A session that has not been started is spawned. -/
theorem Tracked.spawn {s : State} (h : s.Tracked) (hp : s.phase = .idle) :
    ({ s with phase := .starting, joinable := true }.record .spawned).Tracked := by
  obtain ⟨q, ht, fits, hpub, hc, hw, hb⟩ := h
  rw [hp] at fits hw
  exact ⟨q, ht.next (.spawned ..), fits, hpub, hc, hw, hb⟩

theorem Tracked.enqueue {s : State} (h : s.Tracked) (t : Ticket) :
    ({ s with queue := s.queue ++ [t] }.record (.queued t)).Tracked := by
  obtain ⟨⟨g, n, w, b⟩, ht, fits, hp, hc, hw, hb⟩ := h
  refine ⟨_, ht.next (.queued ..), fits, hp, hc, ?_, hb⟩
  -- behind the line in hand and the whole queue
  change s.phase.inHand ++ (s.queue ++ [t]) = w ++ [t]
  rw [← List.append_assoc]
  exact congrArg (· ++ [t]) hw

theorem Tracked.resume {s s' : State} (h : s.Tracked) {id : Nat} (hr : s.resume? id = some s') :
    s'.Tracked := by
  unfold resume? at hr
  split at hr
  · exact absurd hr (by simp)
  · split at hr
    · exact Option.some.inj hr ▸ h.returned id _
    · split at hr
      · rename_i hp
        exact Option.some.inj hr ▸ (h.spawn hp).returned id _
      · exact Option.some.inj hr ▸ h.returned id _
  · split at hr
    · obtain ⟨q, ht, fits, hp, hc, hw, hb⟩ := h
      exact Option.some.inj hr ▸ ⟨q, ht, fits, hp, hc, hw, hb⟩
    · exact Option.some.inj hr ▸ h.returned id _
  · split at hr
    · exact Option.some.inj hr ▸ h.returned id _
    · exact absurd hr (by simp)
  · split at hr
    · exact Option.some.inj hr ▸ h.returned id _
    · split at hr
      · exact Option.some.inj hr ▸ (h.enqueue _).returned id _
      · exact absurd hr (by simp)

theorem Tracked.opened {s s' : State} (h : s.Tracked) (ho : s.opened? = some s') :
    s'.Tracked := by
  obtain ⟨⟨g, n, w, b⟩, ht, fits, hp, hc, hw, hb⟩ := h
  unfold opened? at ho
  split at ho
  · rename_i hphase
    rw [hphase.1] at fits hw
    obtain rfl : g = .dialing := fits
    obtain rfl : s.connections = n := hc
    exact Option.some.inj ho ▸ ⟨_, ht.next (.opens ..), rfl, hp, rfl, hw, hb⟩
  · exact absurd ho (by simp)

theorem Tracked.refused {s s' : State} (h : s.Tracked) (hr : s.refused? = some s') :
    s'.Tracked := by
  obtain ⟨⟨g, n, w, b⟩, ht, fits, hp, hc, hw, hb⟩ := h
  unfold refused? at hr
  split at hr
  · rename_i hphase
    rw [hphase.1] at fits hw
    obtain rfl : g = .dialing := fits
    exact Option.some.inj hr ▸ ⟨_, ht.next (.refuse ..), .inl rfl, hp, hc, hw, hb⟩
  · exact absurd hr (by simp)

/-- A session that waits for the device has greeted it. -/
theorem Tracked.of_live {s : State} (h : s.Tracked) {d : Nat} (hd : s.phase = .live d) :
    ∃ since pings, Tracks s.settings s.history
      ⟨.greeted since pings, s.connections, s.queue, s.cancelled⟩ ∧
      s.Stands ⟨.greeted since pings, s.connections, s.queue, s.cancelled⟩ := by
  obtain ⟨⟨g, n, w, b⟩, ht, hs⟩ := h
  have fits := hs.fits
  have hw := hs.waiting
  rw [hd] at fits hw
  obtain ⟨since, pings, hg, -⟩ := fits
  obtain rfl : g = .greeted since pings := hg
  obtain rfl : s.connections = n := hs.connection
  obtain rfl : s.queue = w := hw
  obtain rfl : s.cancelled = b := hs.told
  exact ⟨since, pings, ht, hs⟩

theorem Tracked.ingest {s : State} (h : s.Tracked) {d : Nat} (hd : s.phase = .live d)
    (line : String) : (s.ingest line).Tracked := by
  obtain ⟨since, pings, ht, fits, hp, hc, hw, hb⟩ := h.of_live hd
  have received := ht.next (.receive since pings s.connections s.queue s.cancelled s.now line)
  unfold State.ingest
  dsimp only
  split
  · exact ⟨_, received, fits, hp, hc, hw, hb⟩
  · split
    · exact ⟨_, received, fits, hp, hc, hw, hb⟩
    · exact ⟨_, received.next (.changeMode ..), fits, hp, hc, hw, hb⟩

theorem Tracked.ends {s : State} (h : s.Tracked) {d : Nat} (hd : s.phase = .live d) :
    ((s.record (.faulted s.connections)).goTo (.ended .failed)).Tracked ∧
      ((s.record (.hungUp s.connections)).goTo (.ended .hungUp)).Tracked := by
  obtain ⟨since, pings, ht, fits, hp, hc, hw, hb⟩ := h.of_live hd
  exact ⟨⟨_, ht.next (.fault ..), rfl, hp, rfl, rfl, rfl⟩,
    _, ht.next (.hangUp ..), rfl, hp, rfl, rfl, rfl⟩

theorem Tracked.closed {s s' : State} (h : s.Tracked) (hc : s.closed? = some s') :
    s'.Tracked := by
  obtain ⟨⟨g, n, w, b⟩, ht, fits, hp, hn, hw, hb⟩ := h
  obtain ⟨⟨d, hphase⟩, rfl⟩ := of_closed? hc
  rw [hphase] at fits hw
  obtain rfl : g = .closing := fits
  obtain rfl : s.connections = n := hn
  exact ⟨_, ht.next (.close ..), .inr (.inr rfl), hp, rfl, hw, hb⟩

theorem Tracked.later {s : State} (h : s.Tracked) (ms : Nat) :
    { s with now := s.now + ms }.Tracked := by
  obtain ⟨q, ht, fits, hp, hc, hw, hb⟩ := h
  exact ⟨q, ht, fits.mono (Nat.le_add_right _ _) id, hp, hc, hw, hb⟩

theorem Tracked.move {s s' : State} (h : s.Tracked) {m : Move} (hm : s.move? m = some s') :
    s'.Tracked := by
  cases m with
  | elapse ms =>
    change s.elapse? ms = some s' at hm
    unfold elapse? at hm
    split at hm
    · exact Option.some.inj hm ▸ h.later ms
    · exact absurd hm (by simp)
  | call r => exact Option.some.inj hm ▸ h.call r
  | resume id => exact h.resume hm
  | act => exact h.act hm
  | opened => exact h.opened hm
  | refused => exact h.refused hm
  | handed =>
    obtain ⟨⟨source, line⟩, hp, rfl⟩ := Option.map_eq_some_iff.mp hm
    exact (h.hand hp).1
  | handFailed =>
    obtain ⟨⟨source, line⟩, hp, rfl⟩ := Option.map_eq_some_iff.mp hm
    exact (h.hand hp).2
  | received line =>
    obtain ⟨⟨⟨d, hd⟩, -⟩, hs⟩ := Option.ite_none_right_eq_some.mp hm
    exact Option.some.inj hs ▸ h.ingest hd line
  | faulted =>
    obtain ⟨⟨⟨d, hd⟩, -⟩, hs⟩ := Option.ite_none_right_eq_some.mp hm
    exact Option.some.inj hs ▸ (h.ends hd).1
  | hungUp =>
    obtain ⟨⟨⟨d, hd⟩, -⟩, hs⟩ := Option.ite_none_right_eq_some.mp hm
    exact Option.some.inj hs ▸ (h.ends hd).2
  | closed => exact h.closed hm

theorem Tracked.turn {s s' : State} {t : Turn} (h : s.Tracked) (ht : s.turn? t = some s') :
    s'.Tracked := by
  cases t with
  | move m => exact h.move ht
  | late ms => exact Option.some.inj ht ▸ h.later ms

theorem run_tracked (k : KeypadSettings) (ts : List Turn) : ((init k).run ts).Tracked :=
  run_induction (fun _ _ _ h ht => h.turn ht) (tracked_init k) ts

theorem Tracked.publishedIn_eq {s : State} (h : s.Tracked) :
    publishedIn s.history = s.published := by
  obtain ⟨q, ht, hs⟩ := h
  exact ht.published.trans hs.published.symm

/-- The history of every run follows the protocol. -/
theorem run_tracks (k : KeypadSettings) (ts : List Turn) :
    ∃ q, Tracks k ((init k).run ts).history q := by
  obtain ⟨q, hq, -⟩ := run_tracked k ts
  rw [settings_run] at hq
  exact ⟨q, hq⟩

end State
end AlarmKeypad.Session
