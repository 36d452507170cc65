import AlarmKeypad.Proofs.Session.Handle
import AlarmKeypad.Proofs.Session.Milestones
import AlarmKeypad.Proofs.Session.VirtualTime
/-!
# The pace of attempts

In virtual time a session that is not shut down goes round for ever, and every milestone of its
round comes when it is due: the last one belongs to the phase, which waits for the next no longer
than it must.
-/

namespace AlarmKeypad.Session

/-- The last milestone in a phase. -/
def Phase.Since (delay : Nat) (F : List (Nat × Nat)) (now c : Nat) (last : Option Stamped) :
    Phase → Prop
  | .idle => last = none
  | .starting => last = some ⟨now, .spawned⟩ ∨
      ∃ t, last = some ⟨t, .published .disconnected⟩ ∧ now = t + delay
  | .dialing => last = some ⟨now, .published .connecting⟩
  | .opening | .draining | .announcing => ∃ t n, last = some ⟨t, .attempted n⟩ ∧ t ≤ now
  | .greeting | .live _ | .sending .. | .pinging _ | .crashed =>
    ∃ t, last = some ⟨t, .published .connected⟩ ∧ t ≤ now
  | .ended .hungUp => last = some ⟨now, .hungUp c⟩
  | .ended .failed => ∃ e, last = some ⟨now, e⟩ ∧ e.Breaks c
  | .closing d => ∃ t, last = some ⟨t, .closing c⟩ ∧ d = t + closeTimeout ∧ t ≤ now ∧ now ≤ d
  | .leaving => last = some ⟨now, .refused⟩ ∨ last = some ⟨now, .hungUp c⟩ ∨
      ∃ t, last = some ⟨t, .closing c⟩ ∧ t ≤ now ∧
        now = min (t + closeTimeout) ((F.lookup c).getD (t + closeTimeout))
  | .parted => last = some ⟨now, .published .disconnected⟩
  | .resting d => ∃ t, last = some ⟨t, .published .disconnected⟩ ∧ d = t + delay ∧ now ≤ d
  | .flushing | .flushSending _ | .ended .shutdown | .finished => False

/-- A connection that is open has not been dropped. -/
theorem Tracks.not_dropped {k : KeypadSettings} {h : List Stamped} {q : Track} (ht : Tracks k h q)
    (hq : q.stage.isOpen = true) : ¬Has h (.dropped q.connection) := by
  induction ht with
  | start => exact nomatch hq
  | next hp hn ih =>
    rw [has_cons, not_or]
    cases hn with
    | opens n w b t =>
      refine ⟨nofun, fun hd => ?_⟩
      obtain ⟨e, he, hed⟩ := List.mem_map.mp hd
      have hle : n + 1 ≤ n := hp.le_connection he (by rw [hed]; rfl)
      omega
    | hand hh => cases hh <;> exact ⟨nofun, ih rfl⟩
    | fail hh => cases hh <;> exact ⟨nofun, ih rfl⟩
    | _ => first | exact ⟨nofun, ih hq⟩ | exact nomatch hq

namespace State

/-- The connections whose closing has finished on the way, and when. -/
def finishes (s : State) : List Move → List (Nat × Nat)
  | [] => []
  | m :: ms =>
    (if m = .closed ∧ s.closed?.isSome then [(s.connections, s.now)] else []) ++
      (s.turn (.move m)).finishes ms

variable {s s' : State} {m : Move} {F : List (Nat × Nat)}

theorem finishes_concat (s : State) (ms : List Move) (m : Move) :
    s.finishes (ms ++ [m]) = s.finishes ms ++
      if m = .closed ∧ (s.play ms).closed?.isSome then [((s.play ms).connections, (s.play ms).now)]
      else [] := by
  induction ms generalizing s with
  | nil => exact List.append_nil _
  | cons n ms ih =>
    change _ ++ (s.turn (.move n)).finishes (ms ++ [m]) = (_ ++ _) ++ _
    rw [ih, List.append_assoc]
    rfl

/-- The milestones so far have come in time, and the last is that of the phase. -/
structure Paced (F : List (Nat × Nat)) (s : State) : Prop where
  timely : Timely s.settings.reconnectDelay F (milestones s.history)
  since : s.phase.Since s.settings.reconnectDelay F s.now s.connections
    (milestones s.history).head?
  untold : s.cancelled = false
  dropped : ∀ p ∈ F, Has s.history (.dropped p.1)

/-- Closing has not finished on a connection that has not been dropped. -/
theorem lookup_eq_none {h : List Stamped} {c : Nat} (hF : ∀ p ∈ F, Has h (.dropped p.1))
    (hc : ¬Has h (.dropped c)) : F.lookup c = none := by
  refine List.lookup_eq_none_iff.mpr fun p hp => ?_
  exact bne_iff_ne.mpr fun heq => hc (heq ▸ hF p hp)

theorem Paced.lookup_closing {d : Nat} (h : Paced F s) (ht : s.Tracked)
    (hp : s.phase = .closing d) : F.lookup s.connections = none := by
  obtain ⟨q, ht, hs⟩ := ht
  have hq : q.stage = .closing := by
    have := hs.fits
    rwa [hp] at this
  refine lookup_eq_none h.dropped ?_
  rw [hs.connection]
  exact ht.not_dropped (by rw [hq]; rfl)

theorem publish_of_ne {c : ConnectionState} (h : s.published ≠ c) :
    s.publish c = { s with published := c }.record (.published c) :=
  if_neg h

theorem Paced.act (h : Paced F s) (ht : s.Tracked) (ha : s.act? = some s') : Paced F s' := by
  have hclosing {d : Nat} (hp : s.phase = .closing d) := h.lookup_closing ht hp
  obtain ⟨timely, since, untold, dropped⟩ := h
  obtain ⟨⟨g, n, w, b⟩, -, hs⟩ := ht
  obtain ⟨settings, now, phase, cancelled, joinable, published, mode, tracker, snapshot, queue,
    calls, callCount, attempts, connections, history⟩ := s
  obtain ⟨fits, hpub, -, -, -⟩ := hs
  obtain rfl : published = g.published := hpub
  obtain rfl : cancelled = false := untold
  have past {e : Stamped} : ∀ p ∈ F, Has (e :: history) (.dropped p.1) :=
    fun p hp => has_cons.mpr (.inr (dropped p hp))
  cases phase with
  | starting =>
    obtain rfl : g = .away := fits
    obtain rfl := Option.some.inj ha
    rcases since with hl | ⟨t, hl, hnow⟩
    · exact ⟨timely.cons hl ⟨.dial, Nat.le_refl _, fun _ => Option.some.inj⟩, rfl, rfl, past⟩
    · have hle : t ≤ now := Nat.le_trans (Nat.le_add_right _ _) (Nat.le_of_eq hnow.symm)
      exact ⟨timely.cons hl ⟨.retry, hle, fun _ hu => hnow.trans (Option.some.inj hu)⟩, rfl, rfl,
        past⟩
  | dialing =>
    obtain rfl := Option.some.inj ha
    exact ⟨timely.cons since ⟨.attempt _, Nat.le_refl _, fun _ => Option.some.inj⟩,
      ⟨now, _, rfl, Nat.le_refl _⟩, rfl, past⟩
  | draining =>
    cases queue with
    | nil | cons x r =>
      obtain rfl := Option.some.inj ha
      exact ⟨timely, since, rfl, past⟩
  | announcing =>
    obtain rfl : g = .drained := fits
    obtain rfl := Option.some.inj ha
    obtain ⟨t, n, hl, hle⟩ := since
    exact ⟨timely.cons hl ⟨.connect n, hle, nofun⟩, ⟨now, rfl, Nat.le_refl _⟩, rfl, past⟩
  | live d =>
    cases queue with
    | cons x r =>
      obtain rfl := Option.some.inj ha
      exact ⟨timely, since, rfl, dropped⟩
    | nil =>
      obtain ⟨-, hs⟩ := Option.ite_none_right_eq_some.mp ha
      obtain rfl := Option.some.inj hs
      exact ⟨timely, since, rfl, dropped⟩
  | ended e =>
    cases e with
    | hungUp =>
      obtain rfl := Option.some.inj ha
      exact ⟨timely, .inr (.inl since), rfl, past⟩
    | failed =>
      obtain rfl : g = .failed := fits
      obtain rfl := Option.some.inj ha
      obtain ⟨e, hl, he⟩ := since
      have abandoned : Stamped.Comes settings.reconnectDelay F ⟨now, .published .closing⟩ ⟨now, e⟩ := by
        refine ⟨.abandon he, Nat.le_refl _, ?_⟩
        cases e <;> first | exact he.elim | exact fun _ => Option.some.inj
      have closing := timely.cons hl abandoned
      exact ⟨closing.next ⟨.close _, Nat.le_refl _, fun _ => Option.some.inj⟩,
        ⟨now, rfl, rfl, Nat.le_refl _, Nat.le_add_right _ _⟩, rfl,
        fun p hp => has_cons.mpr (.inr (past p hp))⟩
    | shutdown => exact since.elim
  | closing d =>
    obtain ⟨hdue, hs⟩ := Option.ite_none_right_eq_some.mp ha
    obtain rfl := Option.some.inj hs
    obtain ⟨t, hl, rfl, hle, hnow⟩ := since
    refine ⟨timely, .inr (.inr ⟨t, hl, hle, ?_⟩), rfl, past⟩
    change now = min (t + closeTimeout) ((F.lookup connections).getD (t + closeTimeout))
    rw [hclosing rfl, Option.getD_none, Nat.min_self]
    exact Nat.le_antisymm hnow hdue
  | leaving =>
    have hne : g.published ≠ .disconnected := by
      rcases fits with rfl | rfl | rfl <;> nofun
    obtain rfl := Option.some.inj ha
    rw [publish_of_ne hne]
    rcases since with hl | hl | ⟨t, hl, hle, hnow⟩
    · exact ⟨timely.cons hl ⟨.giveUp, Nat.le_refl _, fun _ => Option.some.inj⟩, rfl, rfl, past⟩
    · exact ⟨timely.cons hl ⟨.part _, Nat.le_refl _, fun _ => Option.some.inj⟩, rfl, rfl, past⟩
    · exact ⟨timely.cons hl ⟨.leave _, hle, fun _ hu => hnow.trans (Option.some.inj hu)⟩, rfl, rfl,
        past⟩
  | parted =>
    obtain rfl := Option.some.inj ha
    exact ⟨timely, ⟨now, since, rfl, Nat.le_add_right _ _⟩, rfl, dropped⟩
  | resting d =>
    obtain ⟨hdue, hs⟩ := Option.ite_none_right_eq_some.mp ha
    obtain rfl := Option.some.inj hs
    obtain ⟨t, hl, hd, hle⟩ := since
    have hnow : now = t + settings.reconnectDelay := (Nat.le_antisymm hle hdue).trans hd
    exact ⟨timely, .inr ⟨t, hl, hnow⟩, rfl, dropped⟩
  | flushing | flushSending => exact since.elim
  | _ => exact nomatch ha

theorem Paced.call (h : Paced F s) {r : Request} (hr : r ≠ .shutdown) : Paced F (s.call r) := by
  obtain ⟨timely, since, untold, dropped⟩ := h
  cases r with
  | shutdown => exact absurd rfl hr
  | _ =>
    constructor <;>
      grind [State.call, record, returned, waiting, offer, milestones, Event.isMilestone, has_cons]

/-- A session that is started has no milestone behind it. -/
theorem Paced.spawn (h : Paced F s) (hp : s.phase = .idle) :
    Paced F ({ s with phase := .starting, joinable := true }.record .spawned) := by
  obtain ⟨timely, since, untold, dropped⟩ := h
  rw [hp] at since
  have hnil : milestones s.history = [] := List.head?_eq_none_iff.mp since
  refine ⟨?_, .inl rfl, untold, fun p hp => has_cons.mpr (.inr (dropped p hp))⟩
  change Timely _ _ (_ :: milestones s.history)
  rw [hnil]
  exact .spawned _

theorem Paced.returned (h : Paced F s) (id : Nat) (r : Reply) : Paced F (s.returned id r) :=
  ⟨h.timely, h.since, h.untold, fun p hp => has_cons.mpr (.inr (h.dropped p hp))⟩

theorem Paced.resume {id : Nat} (h : Paced F s) (hr : s.resume? id = some s') : Paced F s' := by
  unfold resume? at hr
  split at hr
  · exact nomatch hr
  · split at hr
    · exact Option.some.inj hr ▸ h.returned id _
    · split at hr
      · rename_i hp
        exact Option.some.inj hr ▸ (h.spawn hp).returned id _
      · exact Option.some.inj hr ▸ h.returned id _
  · split at hr
    · exact Option.some.inj hr ▸ ⟨h.timely, h.since, h.untold, h.dropped⟩
    · exact Option.some.inj hr ▸ h.returned id _
  · split at hr
    · exact Option.some.inj hr ▸ h.returned id _
    · exact nomatch hr
  · split at hr
    · exact Option.some.inj hr ▸ h.returned id _
    · split at hr
      · rename_i line _ _ _
        have queued : Paced F ({ s with queue := s.queue ++ [(⟨id, line⟩ : Ticket)] }.record
            (.queued ⟨id, line⟩)) :=
          ⟨h.timely, h.since, h.untold, fun p hp => has_cons.mpr (.inr (h.dropped p hp))⟩
        exact Option.some.inj hr ▸ queued.returned id _
      · exact nomatch hr

/-- Time passes only where the session waits, and no further than its timer. -/
theorem Paced.elapse {n : Nat} (h : Paced F s) (he : s.elapse? n = some s') : Paced F s' := by
  obtain ⟨timely, since, untold, dropped⟩ := h
  obtain ⟨⟨hact, htimer⟩, hs⟩ := Option.ite_none_right_eq_some.mp he
  obtain rfl := Option.some.inj hs
  refine ⟨timely, ?_, untold, dropped⟩
  obtain ⟨settings, now, phase, cancelled, joinable, published, mode, tracker, snapshot, queue,
    calls, callCount, attempts, connections, history⟩ := s
  have later {t : Nat} (ht : t ≤ now) : t ≤ now + n := Nat.le_trans ht (Nat.le_add_right _ _)
  obtain rfl : cancelled = false := untold
  cases phase with
  | idle => exact since
  | opening =>
    obtain ⟨t, a, hl, ht⟩ := since
    exact ⟨t, a, hl, later ht⟩
  | greeting | live d | sending x d | pinging d | crashed =>
    obtain ⟨t, hl, ht⟩ := since
    exact ⟨t, hl, later ht⟩
  | closing d =>
    obtain ⟨t, hl, hd, ht, -⟩ := since
    exact ⟨t, hl, hd, later ht, htimer d rfl⟩
  | resting d =>
    obtain ⟨t, hl, hd, -⟩ := since
    exact ⟨t, hl, hd, htimer d rfl⟩
  | flushing | flushSending | finished => exact since.elim
  | draining => cases queue <;> exact nomatch hact
  | ended e => cases e <;> exact nomatch hact
  | _ => exact nomatch hact

/-- Lines are handed over while the keypad is connected. -/
theorem Paced.since_of_pending (h : Paced F s) {x : Source × String} (hp : s.pending? = some x) :
    ∃ t, (milestones s.history).head? = some ⟨t, .published .connected⟩ ∧ t ≤ s.now := by
  have since := h.since
  unfold pending? at hp
  split at hp <;> grind [Phase.Since]

theorem Paced.handed (h : Paced F s) {source : Source} {line : String}
    (hp : s.pending? = some (source, line)) :
    Paced F (s.record (.handed s.connections source line)).afterHanding := by
  obtain ⟨timely, since, untold, dropped⟩ := h
  constructor <;>
    grind [afterHanding, setHeartbeat, pending?, record, goTo, drop, milestones,
      Event.isMilestone, has_cons, Phase.Since]

theorem Paced.handFailed (h : Paced F s) {source : Source} {line : String}
    (hp : s.pending? = some (source, line)) :
    Paced F ((s.record (.handFailed s.connections source line)).goTo (.ended .failed)) := by
  obtain ⟨t, hl, ht⟩ := h.since_of_pending hp
  exact ⟨h.timely.cons hl ⟨.fail rfl, ht, nofun⟩, ⟨_, rfl, rfl⟩, h.untold,
    fun p hp => has_cons.mpr (.inr (h.dropped p hp))⟩

theorem Paced.ingest (h : Paced F s) (line : String) : Paced F (s.ingest line) := by
  have received : Paced F (s.record (.received s.connections line)) :=
    ⟨h.timely, h.since, h.untold, fun p hp => has_cons.mpr (.inr (h.dropped p hp))⟩
  unfold State.ingest
  dsimp only
  split
  · exact received
  · split
    · exact ⟨h.timely, h.since, h.untold, received.dropped⟩
    · exact ⟨h.timely, h.since, h.untold, fun p hp => has_cons.mpr (.inr (received.dropped p hp))⟩

/-- Closing has finished, no later than its timer. -/
theorem Paced.closed (h : Paced F s) (ht : s.Tracked) (hd : s.Dated) (hc : s.closed? = some s') :
    Paced (F ++ [(s.connections, s.now)]) s' := by
  obtain ⟨⟨d, hp⟩, rfl⟩ := of_closed? hc
  have hlookup := h.lookup_closing ht hp
  obtain ⟨timely, since, untold, dropped⟩ := h
  rw [hp] at since
  obtain ⟨t, hl, rfl, hle, hnow⟩ := since
  refine ⟨?_, .inr (.inr ⟨t, hl, hle, ?_⟩), untold, ?_⟩
  · exact timely.concat fun e he => hd e (List.mem_of_mem_filter he)
  · change s.now = min (t + closeTimeout)
      (((F ++ [(s.connections, s.now)]).lookup s.connections).getD (t + closeTimeout))
    rw [List.lookup_append, hlookup, Option.none_or, List.lookup_cons_self, Option.getD_some,
      Nat.min_eq_right hnow]
  · intro p hp
    rcases List.mem_append.mp hp with hp | hp
    · exact has_cons.mpr (.inr (dropped p hp))
    · obtain rfl := List.mem_singleton.mp hp
      exact has_cons.mpr (.inl rfl)

theorem Paced.move (h : Paced F s) (ht : s.Tracked) (hm : s.move? m = some s')
    (hne : m ≠ .call .shutdown) (hclosed : m ≠ .closed) : Paced F s' := by
  have past {e : Stamped} : ∀ p ∈ F, Has (e :: s.history) (.dropped p.1) :=
    fun p hp => has_cons.mpr (.inr (h.dropped p hp))
  cases m with
  | closed => exact absurd rfl hclosed
  | elapse n => exact h.elapse hm
  | call r => exact Option.some.inj hm ▸ h.call fun hr => hne (congrArg Move.call hr)
  | resume id => exact h.resume hm
  | act => exact h.act ht hm
  | handed =>
    obtain ⟨⟨source, line⟩, hp, rfl⟩ := Option.map_eq_some_iff.mp hm
    exact h.handed hp
  | handFailed =>
    obtain ⟨⟨source, line⟩, hp, rfl⟩ := Option.map_eq_some_iff.mp hm
    exact h.handFailed hp
  | received line =>
    obtain ⟨-, hs⟩ := Option.ite_none_right_eq_some.mp hm
    exact Option.some.inj hs ▸ h.ingest line
  | opened =>
    obtain ⟨⟨hp, -⟩, hs⟩ := Option.ite_none_right_eq_some.mp hm
    have since := h.since
    rw [hp] at since
    exact Option.some.inj hs ▸ ⟨h.timely, since, h.untold, past⟩
  | refused =>
    obtain ⟨⟨hp, -⟩, hs⟩ := Option.ite_none_right_eq_some.mp hm
    have since := h.since
    rw [hp] at since
    obtain ⟨t, n, hl, hle⟩ := since
    exact Option.some.inj hs ▸
      ⟨h.timely.cons hl ⟨.refuse n, hle, nofun⟩, .inl rfl, h.untold, past⟩
  | faulted =>
    obtain ⟨⟨⟨d, hp⟩, -⟩, hs⟩ := Option.ite_none_right_eq_some.mp hm
    have since := h.since
    rw [hp] at since
    obtain ⟨t, hl, hle⟩ := since
    exact Option.some.inj hs ▸
      ⟨h.timely.cons hl ⟨.fail rfl, hle, nofun⟩, ⟨_, rfl, rfl⟩, h.untold, past⟩
  | hungUp =>
    obtain ⟨⟨⟨d, hp⟩, -⟩, hs⟩ := Option.ite_none_right_eq_some.mp hm
    have since := h.since
    rw [hp] at since
    obtain ⟨t, hl, hle⟩ := since
    exact Option.some.inj hs ▸
      ⟨h.timely.cons hl ⟨.hangUp _, hle, nofun⟩, rfl, h.untold, past⟩

theorem play_paced (k : KeypadSettings) {ms : List Move} (hms : .call .shutdown ∉ ms) :
    Paced ((init k).finishes ms) ((init k).play ms) := by
  induction ms using List.reverseRecOn with
  | nil => exact ⟨.nil, rfl, rfl, fun _ hp => nomatch hp⟩
  | append_singleton ms m ih =>
    obtain ⟨hms, hm⟩ := not_or.mp (mt List.mem_append.mpr hms)
    have paced := ih hms
    have tracked : ((init k).play ms).Tracked := run_tracked k _
    rw [finishes_concat, play_concat]
    by_cases hclosed : m = .closed
    · subst hclosed
      cases hc : ((init k).play ms).closed? with
      | none =>
        rw [if_neg (by simp), List.append_nil, turn_eq_self (t := .move .closed) hc]
        exact paced
      | some s' =>
        rw [if_pos ⟨rfl, rfl⟩, turn_eq (t := .move .closed) hc]
        exact paced.closed tracked (run_dated k _) hc
    · rw [if_neg fun h => hclosed h.1, List.append_nil]
      cases hs : ((init k).play ms).move? m with
      | none => exact (turn_eq_self (t := .move m) hs).symm ▸ paced
      | some s' =>
        rw [turn_eq (t := .move m) hs]
        exact paced.move tracked hs (fun heq => hm (heq ▸ List.mem_singleton_self _)) hclosed

/-- Where the last milestone says when the next is due, that time has not passed, and when it comes
the session takes a step. -/
theorem Paced.due (h : Paced F s) (ht : s.Tracked) {e : Stamped} {t : Nat}
    (he : (milestones s.history).head? = some e)
    (hd : e.due? s.settings.reconnectDelay F = some t) :
    s.now ≤ t ∧ (t = s.now → s.act?.isSome = true) := by
  have hclosing {d : Nat} (hp : s.phase = .closing d) := h.lookup_closing ht hp
  obtain ⟨-, since, untold, -⟩ := h
  obtain ⟨settings, now, phase, cancelled, joinable, published, mode, tracker, snapshot, queue,
    calls, callCount, attempts, connections, history⟩ := s
  obtain rfl : cancelled = false := untold
  have last {x : Stamped} (hl : (milestones history).head? = some x) :
      x.due? settings.reconnectDelay F = some t :=
    Option.some.inj (he.symm.trans hl) ▸ hd
  cases phase with
  | idle => exact nomatch he.symm.trans since
  | starting =>
    obtain rfl : now = t := by
      rcases since with hl | ⟨u, hl, hnow⟩
      · exact Option.some.inj (last hl)
      · exact hnow.trans (Option.some.inj (last hl))
    exact ⟨Nat.le_refl _, fun _ => rfl⟩
  | dialing =>
    obtain rfl : now = t := Option.some.inj (last since)
    exact ⟨Nat.le_refl _, fun _ => rfl⟩
  | opening | draining | announcing =>
    obtain ⟨u, n, hl, -⟩ := since
    exact nomatch last hl
  | greeting | live | sending | pinging | crashed =>
    obtain ⟨u, hl, -⟩ := since
    exact nomatch last hl
  | ended e =>
    cases e with
    | hungUp =>
      obtain rfl : now = t := Option.some.inj (last since)
      exact ⟨Nat.le_refl _, fun _ => rfl⟩
    | failed =>
      obtain ⟨e, hl, hb⟩ := since
      obtain rfl : now = t := by
        cases e <;> first | exact hb.elim | exact Option.some.inj (last hl)
      exact ⟨Nat.le_refl _, fun _ => rfl⟩
    | shutdown => exact since.elim
  | closing d =>
    obtain ⟨u, hl, rfl, -, hnow⟩ := since
    obtain rfl : u + closeTimeout = t := by
      have hmin := Option.some.inj (last hl)
      rwa [hclosing rfl, Option.getD_none, Nat.min_self] at hmin
    exact ⟨hnow, fun heq => Option.isSome_iff_exists.mpr ⟨_, if_pos (Nat.le_of_eq heq)⟩⟩
  | leaving =>
    obtain rfl : now = t := by
      rcases since with hl | hl | ⟨u, hl, -, hnow⟩
      · exact Option.some.inj (last hl)
      · exact Option.some.inj (last hl)
      · exact hnow.trans (Option.some.inj (last hl))
    exact ⟨Nat.le_refl _, fun _ => rfl⟩
  | parted =>
    obtain rfl : now + settings.reconnectDelay = t := Option.some.inj (last since)
    exact ⟨Nat.le_add_right _ _, fun _ => rfl⟩
  | resting d =>
    obtain ⟨u, hl, hdue, hnow⟩ := since
    obtain rfl : d = t := hdue.trans (Option.some.inj (last hl))
    exact ⟨hnow, fun heq => Option.isSome_iff_exists.mpr ⟨_, if_pos (Nat.le_of_eq heq)⟩⟩
  | flushing | flushSending | finished => exact since.elim

theorem Paced.not_overdue (h : Paced F s) (ht : s.Tracked) {e : Stamped} {t : Nat}
    (he : (milestones s.history).head? = some e)
    (hd : e.due? s.settings.reconnectDelay F = some t) : ¬s.IsOverdue t := by
  obtain ⟨hle, hact⟩ := h.due ht he hd
  rintro (hlt | ⟨heq, hnone, -⟩)
  · exact absurd hlt (Nat.not_lt.mpr hle)
  · exact absurd (hact heq) (by simp [hnone])

/-- The attempts are those that were to be made, up to the last, whose time is not over. -/
theorem Paced.attempts (h : Paced F s) (ht : s.Tracked) :
    let attempts := timesOf Event.isAttempt s.history
    let due := attemptsDue s.settings.reconnectDelay s.history
    attempts <+: due ∧ (∀ t ∈ due.drop attempts.length, ¬s.IsOverdue t) ∧
      attempts.Pairwise (· + s.settings.reconnectDelay ≤ ·) := by
  intro attempts due
  cases hm : milestones s.history with
  | nil =>
    have hattempts : attempts = [] :=
      (timesOf_milestones (fun _ => Event.isMilestone_of_isAttempt) _).symm.trans (by rw [hm]; rfl)
    have hdue : due = [] := (attemptsDue_milestones _).symm.trans (by rw [hm]; rfl)
    rw [hattempts, hdue]
    exact ⟨List.prefix_refl _, fun t ht => absurd ht List.not_mem_nil, List.Pairwise.nil⟩
  | cons e l =>
    have rounds := (hm ▸ h.timely : Timely _ F (e :: l)).rounds
    have hattempts : timesOf Event.isAttempt (e :: l) = attempts := by
      rw [← hm, timesOf_milestones fun _ => Event.isMilestone_of_isAttempt]
    have hdue : attemptsDue s.settings.reconnectDelay (e :: l) = due := by
      rw [← hm, attemptsDue_milestones]
    obtain ⟨heq, hspread, -⟩ := rounds
    rw [hattempts, hdue] at heq
    rw [hdue] at hspread
    have hpre : attempts <+: due := ⟨_, heq⟩
    refine ⟨hpre, fun t hmem => ?_, hspread.sublist hpre.sublist⟩
    rw [← heq, List.drop_left] at hmem
    have hnext := Option.mem_toList.mp hmem
    refine h.not_overdue ht (by rw [hm]; rfl) (e := e) ?_
    exact e.due_of_nextAttempt hnext

/-- In virtual time, without shutdown and with a heartbeat that can be set, the session never ends.
It goes through its milestones in turn and each comes when it is due, whatever the device does: one
attempt as the session starts, one each time the delay after the keypad was disconnected has passed,
and no other. So attempts are at least one delay apart. -/
theorem reconnect_pacing (k : KeypadSettings) (ms : List Move) (hms : .call .shutdown ∉ ms)
    (hk : k.HasHeartbeat ((init k).play ms).now) :
    let s := (init k).play ms
    let F := (init k).finishes ms
    let attempts := timesOf Event.isAttempt s.history
    let due := attemptsDue k.reconnectDelay s.history
    ¬s.phase.IsOver ∧
      Timely k.reconnectDelay F (milestones s.history) ∧
      (∀ e t, (milestones s.history).head? = some e → e.due? k.reconnectDelay F = some t →
        ¬s.IsOverdue t) ∧
      attempts <+: due ∧
      (∀ t ∈ due.drop attempts.length, ¬s.IsOverdue t) ∧
      (0 < k.reconnectDelay →
        ∀ a b, attempts.countP (fun t => a ≤ t ∧ t ≤ b) ≤ 1 + (b - a) / k.reconnectDelay) := by
  intro s F attempts due
  have paced : Paced F s := play_paced k hms
  have tracked : s.Tracked := run_tracked k _
  have hsettings : s.settings = k := settings_run _ _
  obtain ⟨hpre, hover, hspread⟩ := paced.attempts tracked
  rw [hsettings] at hpre hover hspread
  refine ⟨?_, hsettings ▸ paced.timely, ?_, hpre, hover, fun hd => countP_le_of_spread hspread hd⟩
  · rintro (hp | hp)
    · have since := paced.since
      rw [hp] at since
      exact since
    · have held : s.Held := run_held k _
      exact held.crashed hp (hsettings.symm ▸ hk)
  · intro e t he hd
    exact paced.not_overdue tracked he (hsettings.symm ▸ hd)

/-- An attempt is refused; the next connection fails and takes half a second to close. -/
def outages : List Move :=
  [.call .connect, .resume 0, .act, .act, .refused, .act, .act, .elapse 1000, .act, .act, .act,
    .opened, .act, .act, .handed, .faulted, .act, .elapse 500, .closed, .act, .act, .elapse 1000,
    .act, .act, .act]

set_option maxRecDepth 10000 in
theorem reconnect_pacing_outages :
    let s := (init .default).play outages
    KeypadSettings.default.HasHeartbeat s.now ∧ s.now = 2500 ∧ ¬s.phase.IsOver ∧
      timesOf Event.isAttempt s.history = [0, 1000, 2500] ∧
      (timesOf Event.isAttempt s.history).countP (fun t => 900 ≤ t ∧ t ≤ 2800) ≤
        1 + (2800 - 900) / 1000 := by
  intro s
  have hk : KeypadSettings.default.HasHeartbeat s.now := by decide +kernel
  obtain ⟨hover, -, -, -, -, hbound⟩ := reconnect_pacing .default outages (by decide) hk
  exact ⟨hk, by decide +kernel, hover, by decide +kernel, hbound (by decide) 900 2800⟩

end State
end AlarmKeypad.Session
