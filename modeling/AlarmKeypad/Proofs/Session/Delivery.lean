import AlarmKeypad.Proofs.Session.Omission

namespace AlarmKeypad.Session

/-- Whether a call is made, returns or puts a line into the queue. -/
def Event.isActOf (id : Nat) : Event → Bool
  | .called i _ | .returned i _ => i = id
  | .queued x => x.call = id
  | _ => false

namespace State

variable {s : State} {id i : Nat}

/-- Where a call stands, and what it has done. -/
def own (id : Nat) (s : State) : Option Call × List Stamped :=
  (s.calls.lookup id, s.history.filter (·.event.isActOf id))

theorem own_record {e : Event} (he : e.isActOf id = false) : (s.record e).own id = s.own id := by
  simp [own, record, he]

theorem lookup_filter_ne (calls : List (Nat × Call)) (hi : i ≠ id) :
    (calls.filter (·.1 ≠ i)).lookup id = calls.lookup id := by
  induction calls with
  | nil => rfl
  | cons p calls ih =>
    obtain ⟨j, c⟩ := p
    by_cases hj : j = i
    · have hne : (id == j) = false := beq_false_of_ne (hj ▸ hi.symm)
      rw [List.filter_cons_of_neg (by simpa using hj), ih, List.lookup_cons, hne]
    · rw [List.filter_cons_of_pos (by simpa using hj), List.lookup_cons, List.lookup_cons, ih]

theorem lookup_filter_self (calls : List (Nat × Call)) (id : Nat) :
    (calls.filter (·.1 ≠ id)).lookup id = none := by
  rw [List.lookup_eq_none_iff]
  intro p hp
  have hne : p.1 ≠ id := of_decide_eq_true (List.mem_filter.mp hp).2
  exact bne_iff_ne.mpr hne.symm

theorem own_returned (hi : i ≠ id) (r : Reply) : (s.returned i r).own id = s.own id := by
  unfold returned
  rw [own_record (by simpa [Event.isActOf] using hi), own, lookup_filter_ne _ hi]
  rfl

theorem own_waiting (hi : i ≠ id) (c : Call) : (s.waiting i c).own id = s.own id := by
  have hne : (id == i) = false := beq_false_of_ne hi.symm
  rw [own, waiting, List.lookup_cons, hne, lookup_filter_ne _ hi]
  rfl

theorem own_offer (hi : i ≠ id) (line : String) : (s.offer i line).own id = s.own id := by
  unfold offer
  split
  · exact own_waiting hi _
  · exact own_returned hi _

theorem own_call (hid : id < s.callCount) (r : Request) : (s.call r).own id = s.own id := by
  have hne : s.callCount ≠ id := Nat.ne_of_gt hid
  have hbegun : (s.begun r).own id = s.own id :=
    own_record (s := { s with callCount := _ }) (by simpa [Event.isActOf] using hne)
  rw [← hbegun]
  cases r with
  | connect =>
    rw [call_connect]
    split
    · exact own_returned hne _
    · exact own_waiting hne _
  | shutdown => exact own_waiting (s := { s.begun .shutdown with cancelled := true }) hne _
  | command token =>
    rw [call_command]
    split
    · exact own_returned hne _
    · exact own_offer hne _
  | sync => exact own_offer hne _

theorem own_act {s' : State} (h : s.act? = some s') : s'.own id = s.own id := by
  unfold act? at h
  split at h <;> grind [own, record, goTo, drop, publish, Event.isActOf]

theorem own_resume {s' : State} (hi : i ≠ id) (h : s.resume? i = some s') :
    s'.own id = s.own id := by
  unfold resume? at h
  split at h
  · exact absurd h (by simp)
  · split at h
    · exact Option.some.inj h ▸ own_returned hi _
    · split at h
      · obtain rfl := Option.some.inj h
        exact (own_returned hi _).trans (own_record rfl)
      · exact Option.some.inj h ▸ own_returned hi _
  · split at h
    · exact Option.some.inj h ▸ own_waiting (s := { s with joinable := false }) hi _
    · exact Option.some.inj h ▸ own_returned hi _
  · split at h
    · exact Option.some.inj h ▸ own_returned hi _
    · exact absurd h (by simp)
  · split at h
    · exact Option.some.inj h ▸ own_returned hi _
    · split at h
      · obtain rfl := Option.some.inj h
        refine (own_returned hi _).trans (own_record (s := { s with queue := _ }) ?_)
        simpa [Event.isActOf] using hi
      · exact absurd h (by simp)

theorem own_afterHanding : s.afterHanding.own id = s.own id := by
  unfold afterHanding
  split
  · unfold setHeartbeat
    split <;> rfl
  all_goals rfl

theorem own_ingest (line : String) : (s.ingest line).own id = s.own id := by
  unfold ingest
  dsimp only
  split
  · rfl
  · split <;> rfl

theorem own_move {s' : State} {m : Move} (hid : id < s.callCount) (hm : m ≠ .resume id)
    (h : s.move? m = some s') : s'.own id = s.own id := by
  cases m with
  | resume i => exact own_resume (fun hi => hm (hi ▸ rfl)) h
  | call r => exact Option.some.inj h ▸ own_call hid r
  | act => exact own_act h
  | handed =>
    obtain ⟨⟨source, line⟩, -, rfl⟩ := Option.map_eq_some_iff.mp h
    exact own_afterHanding
  | handFailed =>
    obtain ⟨⟨source, line⟩, -, rfl⟩ := Option.map_eq_some_iff.mp h
    rfl
  | received line =>
    obtain ⟨-, hs⟩ := Option.ite_none_right_eq_some.mp h
    exact Option.some.inj hs ▸ own_ingest line
  | closed =>
    obtain ⟨-, rfl⟩ := of_closed? h
    rfl
  | _ =>
    obtain ⟨-, hs⟩ := Option.ite_none_right_eq_some.mp h
    exact Option.some.inj hs ▸ rfl

/-- A call acts by its own steps only. -/
theorem own_turn {t : Turn} (hid : id < s.callCount) (ht : t ≠ .move (.resume id)) :
    (s.turn t).own id = s.own id := by
  cases h : s.turn? t with
  | none => rw [turn_eq_self h]
  | some s' =>
    rw [turn_eq h]
    cases t with
    | move m => exact own_move hid (fun hm => ht (congrArg _ hm)) h
    | late ms => exact Option.some.inj h ▸ rfl

theorem callCount_lt_call (s : State) (r : Request) : s.callCount < (s.call r).callCount := by
  cases r <;> grind [call, record, returned, waiting, offer]

theorem callCount_le_move {s' : State} {m : Move} (h : s.move? m = some s') :
    s.callCount ≤ s'.callCount := by
  cases m with
  | call r => exact Option.some.inj h ▸ Nat.le_of_lt (s.callCount_lt_call r)
  | resume id =>
    change s.resume? id = some s' at h
    unfold resume? at h
    split at h <;> grind [record, returned, waiting]
  | act =>
    change s.act? = some s' at h
    unfold act? at h
    split at h <;> grind [record, goTo, drop, publish]
  | handed =>
    obtain ⟨⟨source, line⟩, -, rfl⟩ := Option.map_eq_some_iff.mp h
    grind [afterHanding, setHeartbeat, record, goTo, drop]
  | handFailed =>
    obtain ⟨⟨source, line⟩, -, rfl⟩ := Option.map_eq_some_iff.mp h
    exact Nat.le_refl _
  | received line =>
    obtain ⟨-, hs⟩ := Option.ite_none_right_eq_some.mp h
    grind [ingest, record]
  | closed =>
    obtain ⟨-, rfl⟩ := of_closed? h
    exact Nat.le_refl _
  | _ =>
    obtain ⟨-, hs⟩ := Option.ite_none_right_eq_some.mp h
    exact Option.some.inj hs ▸ Nat.le_refl _

theorem callCount_le_turn (s : State) (t : Turn) : s.callCount ≤ (s.turn t).callCount := by
  cases h : s.turn? t with
  | none => exact Nat.le_of_eq (congrArg State.callCount (turn_eq_self h).symm)
  | some s' =>
    rw [turn_eq h]
    cases t with
    | move m => exact callCount_le_move h
    | late ms => exact Option.some.inj h ▸ Nat.le_refl _

theorem own_returned_self (r : Reply) :
    (s.returned id r).own id = (none, ⟨s.now, .returned id r⟩ :: (s.own id).2) := by
  simp only [own, returned, record]
  rw [lookup_filter_self, List.filter_cons_of_pos (by simp [Event.isActOf])]

theorem own_record_self {e : Event} (he : e.isActOf id = true) :
    ((s.record e).own id).2 = ⟨s.now, e⟩ :: (s.own id).2 := by
  simp [own, record, he]

theorem own_waiting_self (c : Call) : (s.waiting id c).own id = (some c, (s.own id).2) := by
  simp only [own, waiting]
  rw [List.lookup_cons_self]

/-- The call is over and has put no line into the queue. -/
def Settled (id : Nat) (s : State) : Prop :=
  (s.own id).1 = none ∧ ∀ e ∈ (s.own id).2, e.event.queued? = none

/-- The call has been made and its line waits for room in the queue. -/
def Waits (id : Nat) (s : State) : Prop :=
  (∃ line, (s.own id).1 = some (.queueing line)) ∧
    ∀ e ∈ (s.own id).2, ∃ r, e.event = .called id r

/-- The call has not been told that the keypad is not connected, and will not be. -/
def Accepted (id : Nat) (s : State) : Prop :=
  (∀ line, (s.own id).1 ≠ some (.queueing line)) ∧
    ∀ e ∈ (s.own id).2, e.event ≠ .returned id (.failed .notConnected)

theorem without_returned_self (r : Reply) : (s.returned id r).without id = s.without id := by
  unfold returned
  rw [without_record_own (by simp [Event.isStepOf])]
  simp [without, List.filter_filter]

theorem without_waiting_self (c : Call) : (s.waiting id c).without id = s.without id := by
  simp [without, waiting, List.filter_filter]

theorem Settled.resume (h : s.Settled id) : s.resume? id = none := by
  have hc : s.calls.lookup id = none := h.1
  simp only [resume?, hc]

theorem settled_of_returned {r : Reply} (h : ∀ e ∈ (s.own id).2, e.event.queued? = none) :
    (s.returned id r).Settled id := by
  rw [Settled, own_returned_self]
  refine ⟨rfl, fun e he => ?_⟩
  rcases List.mem_cons.mp he with rfl | he
  · rfl
  · exact h e he

theorem accepted_of_returned {r : Reply} (hr : r ≠ .failed .notConnected)
    (h : ∀ e ∈ (s.own id).2, e.event ≠ .returned id (.failed .notConnected)) :
    (s.returned id r).Accepted id := by
  rw [Accepted, own_returned_self]
  refine ⟨fun _ => nofun, fun e he => ?_⟩
  rcases List.mem_cons.mp he with rfl | he
  · exact fun heq => hr (Event.returned.inj heq).2
  · exact h e he

/-- The step of a call whose line waits. -/
theorem Waits.resume (h : s.Waits id) {s' : State} (hr : s.resume? id = some s') :
    s'.Settled id ∧ s'.without id = s.without id ∨ s'.Accepted id := by
  obtain ⟨⟨line, hc⟩, hcalled⟩ := h
  have hc : s.calls.lookup id = some (.queueing line) := hc
  simp only [resume?, hc] at hr
  split at hr
  · obtain rfl := Option.some.inj hr
    refine .inl ⟨settled_of_returned fun e he => ?_, without_returned_self _⟩
    obtain ⟨r, hr⟩ := hcalled e he
    rw [hr]
    rfl
  · split at hr
    · obtain rfl := Option.some.inj hr
      refine .inr (accepted_of_returned (by simp) fun e he heq => ?_)
      rw [own_record_self (by simp [Event.isActOf])] at he
      rcases List.mem_cons.mp he with rfl | he
      · exact nomatch heq
      · obtain ⟨r, hr⟩ := hcalled e he
        exact nomatch hr.symm.trans heq
    · exact nomatch hr

theorem Accepted.resume (h : s.Accepted id) {s' : State} (hr : s.resume? id = some s') :
    s'.Accepted id := by
  obtain ⟨hc, hown⟩ := h
  unfold resume? at hr
  split at hr
  · exact nomatch hr
  · split at hr
    · exact Option.some.inj hr ▸ accepted_of_returned (by simp) hown
    · split at hr
      · exact Option.some.inj hr ▸ accepted_of_returned (by simp) hown
      · exact Option.some.inj hr ▸ accepted_of_returned (by simp) hown
  · split at hr
    · obtain rfl := Option.some.inj hr
      rw [Accepted, own_waiting_self]
      exact ⟨fun _ => nofun, hown⟩
    · exact Option.some.inj hr ▸ accepted_of_returned (by simp) hown
  · split at hr
    · exact Option.some.inj hr ▸ accepted_of_returned (by simp) hown
    · exact nomatch hr
  · rename_i line hl
    exact absurd hl (hc line)

/-- A run `u` without the call: as long as the call has put no line into the queue the two runs
are the same but for it. -/
def Follows (id : Nat) (s u : State) : Prop :=
  s.Settled id ∧ s.without id = u ∨ s.Waits id ∧ s.without id = u ∨ s.Accepted id

theorem without_turn {t t' : Turn} (hid : id < s.callCount) (ht : t.without id = some t') :
    (s.turn t).without id = (s.without id).turn t' := by
  rw [turn, turn, turn?_without hid ht]
  cases s.turn? t <;> rfl

theorem run_without_cons (u : State) (t : Turn) (ts : List Turn) :
    (u.run (t.without id).toList).run (ts.filterMap (Turn.without id)) =
      u.run ((t :: ts).filterMap (Turn.without id)) := by
  rw [← run_append]
  cases ht : t.without id <;> simp [ht]

theorem Settled.turn (h : s.Settled id) (hid : id < s.callCount) (t : Turn) :
    (s.turn t).Settled id ∧
      (s.turn t).without id = (s.without id).run (t.without id).toList := by
  cases ht : t.without id with
  | none =>
    obtain rfl := Turn.without_eq_none.mp ht
    rw [turn_eq_self (t := .move (.resume id)) h.resume]
    exact ⟨h, rfl⟩
  | some t' =>
    have hne := Turn.ne_of_without ht
    refine ⟨?_, without_turn hid ht⟩
    rw [Settled, own_turn hid hne]
    exact h

theorem Follows.turn {u : State} (h : s.Follows id u) (hid : id < s.callCount) (t : Turn) :
    (s.turn t).Follows id (u.run (t.without id).toList) := by
  rcases h with ⟨h, rfl⟩ | h
  · exact .inl (h.turn hid t)
  cases ht : t.without id with
  | some t' =>
    have hne := Turn.ne_of_without ht
    rcases h with ⟨h, rfl⟩ | h
    · refine .inr (.inl ⟨?_, without_turn hid ht⟩)
      rw [Waits, own_turn hid hne]
      exact h
    · refine .inr (.inr ?_)
      rw [Accepted, own_turn hid hne]
      exact h
  | none =>
    -- the call's own step, which the other run does not have
    obtain rfl := Turn.without_eq_none.mp ht
    cases hr : s.resume? id with
    | none =>
      rw [turn_eq_self (t := .move (.resume id)) hr]
      exact .inr h
    | some s' =>
      rw [turn_eq (t := .move (.resume id)) hr]
      rcases h with ⟨h, rfl⟩ | h
      · rcases h.resume hr with ⟨hs, hw⟩ | ha
        · exact .inl ⟨hs, hw⟩
        · exact .inr (.inr ha)
      · exact .inr (.inr (h.resume hr))

theorem Settled.run (h : s.Settled id) (hid : id < s.callCount) (ts : List Turn) :
    (s.run ts).Settled id ∧
      (s.run ts).without id = (s.without id).run (ts.filterMap (Turn.without id)) := by
  induction ts generalizing s with
  | nil => exact ⟨h, rfl⟩
  | cons t ts ih =>
    obtain ⟨hs, hw⟩ := h.turn hid t
    obtain ⟨hrun, heq⟩ := ih hs (Nat.lt_of_lt_of_le hid (callCount_le_turn s t))
    exact ⟨hrun, by rw [run_cons, heq, hw, run_without_cons]⟩

theorem Follows.run {u : State} (h : s.Follows id u) (hid : id < s.callCount) (ts : List Turn) :
    (s.run ts).Follows id (u.run (ts.filterMap (Turn.without id))) := by
  induction ts generalizing s u with
  | nil => exact h
  | cons t ts ih =>
    rw [← run_without_cons]
    exact ih (h.turn hid t) (Nat.lt_of_lt_of_le hid (callCount_le_turn s t))

/-- A call that has only begun leaves no trace when it is left out. -/
theorem without_begun_self (a : s.Accounted) (h : s.Tracked) (r : Request) :
    (s.begun r).without s.callCount = s := by
  have hphase : s.phase.without s.callCount = s.phase := by
    cases hp : s.phase with
    | sending x d =>
      have hx : x ∈ s.phase.inHand ++ s.queue := by simp [hp, Phase.inHand]
      rw [Phase.without, Ticket.without_of_lt (a.ticket_lt h hx)]
    | flushSending x =>
      have hx : x ∈ s.phase.inHand ++ s.queue := by simp [hp, Phase.inHand]
      rw [Phase.without, Ticket.without_of_lt (a.ticket_lt h hx)]
    | _ => rfl
  have hqueue : s.queue.map (Ticket.without s.callCount) = s.queue := by
    refine (List.map_congr_left fun x hx => ?_).trans (List.map_id _)
    exact Ticket.without_of_lt (a.ticket_lt h (List.mem_append_right _ hx))
  have hcalls : (s.calls.filter (·.1 ≠ s.callCount)).map
      (fun p => (renumber s.callCount p.1, p.2)) = s.calls := by
    rw [List.filter_eq_self.mpr fun p hp => by simpa using Nat.ne_of_lt (a.calls_lt p hp)]
    refine (List.map_congr_left fun p hp => ?_).trans (List.map_id _)
    rw [renumber_of_lt (a.calls_lt p hp)]
    rfl
  have hhistory : (s.history.filter fun e => !e.event.isStepOf s.callCount).map
      (fun e => Stamped.mk e.time (e.event.without s.callCount)) = s.history := by
    rw [List.filter_eq_self.mpr fun e he => ?_]
    · refine (List.map_congr_left fun e he => ?_).trans (List.map_id _)
      rw [Event.without_of_lt (a.events_lt e he)]
      rfl
    · have hlt := a.events_lt e he
      cases hev : e.event <;> simp_all [Event.isStepOf, Event.call?, Nat.ne_of_lt]
  unfold begun
  rw [without_record_own (by simp [Event.isStepOf])]
  simp only [without, hphase, hqueue, hcalls, hhistory]
  rfl

theorem own_begun_self (a : s.Accounted) (r : Request) :
    (s.begun r).own s.callCount = (none, [⟨s.now, .called s.callCount r⟩]) := by
  have hcalls : s.calls.lookup s.callCount = none :=
    List.lookup_eq_none_iff.mpr fun p hp => bne_iff_ne.mpr (Nat.ne_of_gt (a.calls_lt p hp))
  have hown : s.history.filter (·.event.isActOf s.callCount) = [] := by
    refine List.filter_eq_nil_iff.mpr fun e he => ?_
    have hlt := a.events_lt e he
    cases hev : e.event <;> simp_all [Event.isActOf, Event.call?, Nat.ne_of_lt]
  refine Prod.ext hcalls ?_
  rw [begun, own_record_self (by simp [Event.isActOf])]
  exact congrArg _ hown

/-- A call that returns at once. -/
theorem settled_begun (a : s.Accounted) (h : s.Tracked) (r : Request) (p : Reply) :
    ((s.begun r).returned s.callCount p).Settled s.callCount ∧
      ((s.begun r).returned s.callCount p).without s.callCount = s := by
  refine ⟨settled_of_returned fun e he => ?_, ?_⟩
  · rw [own_begun_self a] at he
    obtain rfl := List.mem_singleton.mp he
    rfl
  · rw [without_returned_self, without_begun_self a h]

theorem accepted_begun (a : s.Accounted) (r : Request) {c : Call}
    (hc : ∀ line, c ≠ .queueing line) :
    ((s.begun r).waiting s.callCount c).Accepted s.callCount := by
  rw [Accepted, own_waiting_self, own_begun_self a]
  refine ⟨fun line heq => hc line (Option.some.inj heq), fun e he => ?_⟩
  obtain rfl := List.mem_singleton.mp he
  nofun

theorem follows_offer (a : s.Accounted) (h : s.Tracked) (r : Request) (line : String) :
    ((s.begun r).offer s.callCount line).Follows s.callCount s := by
  unfold offer
  split
  · refine .inr (.inl ⟨?_, ?_⟩)
    · rw [Waits, own_waiting_self, own_begun_self a]
      refine ⟨⟨line, rfl⟩, fun e he => ?_⟩
      obtain rfl := List.mem_singleton.mp he
      exact ⟨r, rfl⟩
    · rw [without_waiting_self, without_begun_self a h]
  · exact .inl (settled_begun a h r _)

theorem follows_call (a : s.Accounted) (h : s.Tracked) (r : Request) :
    (s.call r).Follows s.callCount s := by
  cases r with
  | connect =>
    rw [call_connect]
    split
    · exact .inl (settled_begun a h _ _)
    · exact .inr (.inr (accepted_begun a _ nofun))
  | shutdown => exact .inr (.inr (accepted_begun a .shutdown nofun))
  | command token =>
    rw [call_command]
    split
    · exact .inl (settled_begun a h _ _)
    · exact follows_offer a h _ _
  | sync => exact follows_offer a h _ _

/-- The line of a call that has put none into the queue is not handed over. -/
theorem unsent_of_unqueued (h : s.Tracked)
    (hown : ∀ e ∈ (s.own id).2, e.event.queued? = none) {e : Stamped} (he : e ∈ s.history)
    {o : Handover} (ho : e.event.handover? = some o) : o.source ≠ .call id := by
  intro hsource
  obtain ⟨q, ht, -⟩ := h
  have hsent : ⟨id, o.line⟩ ∈ collect Event.sent? s.history :=
    mem_collect.mpr ⟨e, he, Handover.sent ho hsource⟩
  obtain ⟨f, hf, hq⟩ := mem_collect.mp (ht.sent_sublist.subset hsent)
  have hact : f.event.isActOf id = true := by
    simp [Event.eq_of_queued hq, Event.isActOf]
  exact nomatch (hown f (List.mem_filter.mpr ⟨hf, hact⟩)).symm.trans hq

end State

/-- On every run each line of the queue is handed over at most once, in the order of the queue, and
is the line of a call that found the keypad connected; on each connection go the first of the lines
that were queued for it, without a gap, and for the last one the session holds all that are still to
go. A call that returned that the keypad is not connected, or whose command is empty, has no line
handed over, and without it the run is the same in everything else. -/
theorem queue_discipline (k : KeypadSettings) :
    (∀ ts, let s := (State.init k).run ts
      let h := s.history
      ((collect Event.sent? h).map Ticket.call).Nodup ∧
        (collect Event.sent? h).Sublist (collect Event.queued? h) ∧
        (∀ e past o id, e :: past <:+ h → e.event.handover? = some o → o.source = .call id →
          Checked k past ⟨id, o.line⟩) ∧
        (∀ c, ticketsOn c h <+: queuedFor c h) ∧
        (1 ≤ s.connections → s.phase ≠ .draining → queuedFor s.connections h =
          ticketsOn s.connections h ++ (s.phase.inHand ++ s.queue))) ∧
      ∀ pre r post, let id := ((State.init k).run pre).callCount
        let s := (State.init k).run (pre ++ .move (.call r) :: post)
        (∃ t, ⟨t, .returned id (.failed .notConnected)⟩ ∈ s.history) ∨ r = .command "" →
        (∀ e ∈ s.history, ∀ o, e.event.handover? = some o → o.source ≠ .call id) ∧
          (State.init k).run (pre ++ post.filterMap (Turn.without id)) = s.without id := by
  constructor
  · intro ts s h
    obtain ⟨q, ht⟩ := State.run_tracks k ts
    have a := State.run_accounts k ts
    refine ⟨a.once.sublist (ht.sent_sublist.map _), ht.sent_sublist, ?_, ht.windows.all,
      (State.run_tracked k ts).queuedFor_eq⟩
    intro e past o id he ho hs
    exact ht.checked_of_handover a he ho hs
  · intro pre r post id s hr
    have a := State.run_accounted k pre
    have h := State.run_tracked k pre
    have hs : s = (((State.init k).run pre).call r).run post := State.run_append _ _ _
    have hid := ((State.init k).run pre).callCount_lt_call r
    -- it is enough that the call has put no line into the queue
    have finish : (∀ e ∈ (s.own id).2, e.event.queued? = none) →
        s.without id = ((State.init k).run pre).run (post.filterMap (Turn.without id)) →
        (∀ e ∈ s.history, ∀ o, e.event.handover? = some o → o.source ≠ .call id) ∧
          (State.init k).run (pre ++ post.filterMap (Turn.without id)) = s.without id := by
      intro hown hwithout
      refine ⟨fun e he o ho => State.unsent_of_unqueued (State.run_tracked k _) hown he ho, ?_⟩
      rw [State.run_append, hwithout]
    rcases hr with ⟨t, ht⟩ | rfl
    · have hfollows := (State.follows_call a h r).run hid post
      rw [← hs] at hfollows
      rcases hfollows with ⟨hsettled, hw⟩ | ⟨⟨-, hcalled⟩, hw⟩ | ⟨-, haccepted⟩
      · exact finish hsettled.2 hw
      · refine finish (fun e he => ?_) hw
        obtain ⟨r, hr⟩ := hcalled e he
        rw [hr]
        rfl
      · have hact : (⟨t, .returned id (.failed .notConnected)⟩ : Stamped) ∈ (s.own id).2 :=
          List.mem_filter.mpr ⟨ht, by simp [Event.isActOf]⟩
        exact absurd rfl (haccepted _ hact)
    · obtain ⟨hsettled, hw⟩ := State.settled_begun a h (.command "") .ok
      obtain ⟨hsettled, hrun⟩ := hsettled.run hid post
      exact finish (hs ▸ hsettled.2) (hs ▸ hrun.trans (congrArg (State.run · _) hw))

set_option maxRecDepth 10000 in
/-- A command that comes before the keypad is connected. -/
theorem begins_without_refused :
    (State.init .default).run Turn.begins = ((State.init .default).run
      (.move (.call (.command "<AWAY>")) :: .move (.call .connect) :: .move (.resume 1) ::
        Turn.connects)).without 0 := by
  obtain ⟨-, hghost⟩ := queue_discipline .default
  exact (hghost [] (.command "<AWAY>") (.move (.call .connect) :: .move (.resume 1) ::
    Turn.connects) (.inl ⟨0, by decide +kernel⟩)).2

end AlarmKeypad.Session
