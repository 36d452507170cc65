import AlarmKeypad.Proofs.Session.Tracking

namespace AlarmKeypad.Session

def Request.line? (k : KeypadSettings) : Request → Option String
  | .command token => if token = "" then none else some (ControlLine.send token).render
  | .sync => some k.syncLine
  | .connect | .shutdown => none

/-- The line of a call that found the keypad connected. -/
def Checked (k : KeypadSettings) (h : List Stamped) (x : Ticket) : Prop :=
  ∃ t r past, ⟨t, .called x.call r⟩ :: past <:+ h ∧ r.line? k = some x.line ∧
    publishedIn past = .connected

theorem Checked.mono {k : KeypadSettings} {past h : List Stamped} {x : Ticket}
    (hx : Checked k past x) (hp : past <:+ h) : Checked k h x := by
  obtain ⟨t, r, p, hs, hline, hpub⟩ := hx
  exact ⟨t, r, p, hs.trans hp, hline, hpub⟩

/-- The calls that have not returned, `n` calls so far, and what has happened. -/
structure Accounts (k : KeypadSettings) (calls : List (Nat × Call)) (n : Nat)
    (h : List Stamped) : Prop where
  counted : collect Event.called? h = List.range n
  calls_lt : ∀ p ∈ calls, p.1 < n
  events_lt : ∀ e ∈ h, ∀ id ∈ e.event.call?, id < n
  /-- A call that has not returned has put no line into the queue. -/
  fresh : ∀ p ∈ calls, ∀ x ∈ collect Event.queued? h, x.call ≠ p.1
  once : ((collect Event.queued? h).map Ticket.call).Nodup
  checks : ∀ id line, (id, .queueing line) ∈ calls → Checked k h ⟨id, line⟩
  checked : ∀ t x past, ⟨t, .queued x⟩ :: past <:+ h → Checked k past x

namespace Accounts

variable {k : KeypadSettings} {calls : List (Nat × Call)} {n id : Nat} {h : List Stamped}
  {x : Ticket}

theorem lt_of_queued (a : Accounts k calls n h) (hx : x ∈ collect Event.queued? h) :
    x.call < n := by
  obtain ⟨e, he, hq⟩ := mem_collect.mp hx
  refine a.events_lt e he x.call ?_
  rw [Event.eq_of_queued hq]
  rfl

/-- Any event but that of a call that is made or of a line that is queued. -/
theorem record (a : Accounts k calls n h) {e : Stamped} (hm : e.event.called? = none)
    (hq : e.event.queued? = none) (hc : ∀ id ∈ e.event.call?, id < n) :
    Accounts k calls n (e :: h) := by
  have hcalled : collect Event.called? (e :: h) = collect Event.called? h := by simp [hm]
  have hqueued : collect Event.queued? (e :: h) = collect Event.queued? h := by simp [hq]
  refine ⟨hcalled ▸ a.counted, a.calls_lt, ?_, hqueued ▸ a.fresh, hqueued ▸ a.once, ?_, ?_⟩
  · intro f hf
    rcases List.mem_cons.mp hf with rfl | hf
    · exact hc
    · exact a.events_lt f hf
  · exact fun id line hm => (a.checks id line hm).mono (List.suffix_cons e h)
  · intro t x past hs
    rcases List.suffix_cons_iff.mp hs with heq | hs
    · obtain ⟨rfl, rfl⟩ := List.cons.inj heq
      exact nomatch hq
    · exact a.checked t x past hs

/-- A call is over. -/
theorem done (a : Accounts k calls n h) (id : Nat) :
    Accounts k (calls.filter (·.1 ≠ id)) n h where
  counted := a.counted
  calls_lt p hp := a.calls_lt p (List.mem_filter.mp hp).1
  events_lt := a.events_lt
  fresh p hp := a.fresh p (List.mem_filter.mp hp).1
  once := a.once
  checks id line hm := a.checks id line (List.mem_filter.mp hm).1
  checked := a.checked

/-- A call that has put no line into the queue waits. -/
theorem wait (a : Accounts k calls n h) {c : Call} (hid : id < n)
    (hf : ∀ x ∈ collect Event.queued? h, x.call ≠ id)
    (hc : ∀ line, c = .queueing line → Checked k h ⟨id, line⟩) :
    Accounts k ((id, c) :: calls.filter (·.1 ≠ id)) n h where
  counted := a.counted
  calls_lt p hp := by
    rcases List.mem_cons.mp hp with rfl | hp
    · exact hid
    · exact (a.done id).calls_lt p hp
  events_lt := a.events_lt
  fresh p hp := by
    rcases List.mem_cons.mp hp with rfl | hp
    · exact hf
    · exact (a.done id).fresh p hp
  once := a.once
  checks i line hm := by
    rcases List.mem_cons.mp hm with heq | hm
    · obtain ⟨rfl, rfl⟩ := Prod.mk.inj heq
      exact hc line rfl
    · exact (a.done id).checks i line hm
  checked := a.checked

/-- A new call. -/
theorem more (a : Accounts k calls n h) (t : Nat) (r : Request) :
    Accounts k calls (n + 1) (⟨t, .called n r⟩ :: h) := by
  have hqueued : collect Event.queued? (⟨t, .called n r⟩ :: h) = collect Event.queued? h :=
    List.append_nil _
  refine ⟨?_, fun p hp => Nat.lt_succ_of_lt (a.calls_lt p hp), ?_, hqueued ▸ a.fresh,
    hqueued ▸ a.once, ?_, ?_⟩
  · rw [List.range_succ, ← a.counted]
    rfl
  · intro e he id hid
    rcases List.mem_cons.mp he with rfl | he
    · exact Option.some.inj hid ▸ Nat.lt_succ_self n
    · exact Nat.lt_succ_of_lt (a.events_lt e he id hid)
  · exact fun id line hm => (a.checks id line hm).mono (List.suffix_cons _ h)
  · intro t' x past hs
    rcases List.suffix_cons_iff.mp hs with heq | hs
    · exact nomatch (Stamped.mk.inj (List.cons.inj heq).1).2
    · exact a.checked t' x past hs

/-- A call that waits puts its line into the queue. -/
theorem enqueue (a : Accounts k calls n h) {line : String} (hm : (id, .queueing line) ∈ calls)
    (t : Nat) : Accounts k (calls.filter (·.1 ≠ id)) n (⟨t, .queued ⟨id, line⟩⟩ :: h) := by
  have hqueued : collect Event.queued? (⟨t, .queued ⟨id, line⟩⟩ :: h) =
      collect Event.queued? h ++ [⟨id, line⟩] := rfl
  have hcalled : collect Event.called? (⟨t, .queued ⟨id, line⟩⟩ :: h) = collect Event.called? h :=
    List.append_nil _
  refine ⟨hcalled ▸ a.counted, (a.done id).calls_lt, ?_, ?_, ?_, ?_, ?_⟩
  · intro e he i hi
    rcases List.mem_cons.mp he with rfl | he
    · exact Option.some.inj hi ▸ a.calls_lt _ hm
    · exact a.events_lt e he i hi
  · -- the call itself is over, and the other calls had no line in the queue before
    intro p hp x hx
    obtain ⟨hp, hne⟩ := List.mem_filter.mp hp
    rw [hqueued, List.mem_append, List.mem_singleton] at hx
    rcases hx with hx | rfl
    · exact a.fresh p hp x hx
    · exact fun heq => of_decide_eq_true hne heq.symm
  · -- a call that had not returned had no line in the queue
    rw [hqueued, List.map_append, List.nodup_append]
    refine ⟨a.once, List.pairwise_singleton _ _, ?_⟩
    intro c hc d hd
    obtain ⟨x, hx, rfl⟩ := List.mem_map.mp hc
    obtain rfl := List.mem_singleton.mp hd
    exact a.fresh _ hm x hx
  · exact fun i line hi => ((a.done id).checks i line hi).mono (List.suffix_cons _ h)
  · intro t' x past hs
    rcases List.suffix_cons_iff.mp hs with heq | hs
    · obtain ⟨hev, rfl⟩ := List.cons.inj heq
      obtain rfl := Event.queued.inj (Stamped.mk.inj hev).2
      exact a.checks id line hm
    · exact a.checked t' x past hs

/-- A call is made once. -/
theorem called_unique (a : Accounts k calls n h) {t t' : Nat} {r r' : Request}
    {past past' : List Stamped} (hc : ⟨t, .called id r⟩ :: past <:+ h)
    (hc' : ⟨t', .called id r'⟩ :: past' <:+ h) : r = r' ∧ past = past' := by
  have hn : (collect Event.called? h).Nodup := a.counted ▸ List.nodup_range
  obtain ⟨he, hp⟩ := suffix_unique hn hc hc' rfl rfl
  exact ⟨(Event.called.inj (Stamped.mk.inj he).2).2, hp⟩

/-- A call puts one line into the queue, once. -/
theorem queued_unique (a : Accounts k calls n h) {t t' : Nat} {x y : Ticket}
    {past past' : List Stamped} (hx : ⟨t, .queued x⟩ :: past <:+ h)
    (hy : ⟨t', .queued y⟩ :: past' <:+ h) (hxy : x.call = y.call) : x = y ∧ past = past' := by
  have hn := a.once
  rw [← collect_map] at hn
  obtain ⟨he, hp⟩ := suffix_unique (a := y.call) hn hx hy (congrArg some hxy) rfl
  exact ⟨Event.queued.inj (Stamped.mk.inj he).2, hp⟩

end Accounts

theorem mem_of_lookup {calls : List (Nat × Call)} {id : Nat} {c : Call}
    (h : calls.lookup id = some c) : (id, c) ∈ calls := by
  obtain ⟨l, r, rfl, -⟩ := List.lookup_eq_some_iff.mp h
  exact List.mem_append_right _ List.mem_cons_self

namespace State

def Accounted (s : State) : Prop := Accounts s.settings s.calls s.callCount s.history

theorem Accounted.returned {s : State} (a : s.Accounted) {id : Nat} (hid : id < s.callCount)
    (r : Reply) : (s.returned id r).Accounted :=
  Accounts.record (a.done id) rfl rfl fun _ hi => Option.some.inj hi ▸ hid

/-- A line that waits in the queue, or is being handed over, has been queued. -/
theorem Tracked.ticket_queued {s : State} (h : s.Tracked) {x : Ticket}
    (hx : x ∈ s.phase.inHand ++ s.queue) : x ∈ collect Event.queued? s.history := by
  obtain ⟨q, ht, hs⟩ := h
  rw [ht.queued_eq, ← hs.waiting]
  exact List.mem_append_right _ hx

theorem Accounted.ticket_lt {s : State} (a : s.Accounted) (h : s.Tracked) {x : Ticket}
    (hx : x ∈ s.phase.inHand ++ s.queue) : x.call < s.callCount :=
  a.lt_of_queued (h.ticket_queued hx)

theorem Accounted.act {s s' : State} (a : s.Accounted) (h : s.Tracked) (ha : s.act? = some s') :
    s'.Accounted := by
  have hlt : ∀ x ∈ s.queue, x.call < s.callCount := fun x hx =>
    a.ticket_lt h (List.mem_append_right _ hx)
  unfold act? at ha
  split at ha <;>
    grind [Accounted, Accounts.record, record, goTo, drop, publish, Event.called?, Event.queued?,
      Event.call?]

/-- The state after a call has been made, before its first step. -/
def begun (s : State) (r : Request) : State :=
  { s with callCount := s.callCount + 1 }.record (.called s.callCount r)

theorem call_connect (s : State) : s.call .connect =
    if s.cancelled then (s.begun .connect).returned s.callCount (.failed .shutDown)
    else (s.begun .connect).waiting s.callCount .connecting := rfl

theorem call_shutdown (s : State) : s.call .shutdown =
    { s.begun .shutdown with cancelled := true }.waiting s.callCount .stopping := rfl

theorem call_command (s : State) (token : String) : s.call (.command token) =
    if token = "" then (s.begun (.command token)).returned s.callCount .ok
    else (s.begun (.command token)).offer s.callCount (ControlLine.send token).render := rfl

theorem call_sync (s : State) :
    s.call .sync = (s.begun .sync).offer s.callCount s.settings.syncLine := rfl

theorem Accounted.begun {s : State} (a : s.Accounted) (r : Request) : (s.begun r).Accounted :=
  Accounts.more a s.now r

/-- A call that has begun has put no line into the queue. -/
theorem Accounted.unqueued {s : State} (a : s.Accounted) (r : Request) {x : Ticket}
    (hx : x ∈ collect Event.queued? (s.begun r).history) : x.call ≠ s.callCount := by
  obtain hx : x ∈ collect Event.queued? s.history ++ [] := hx
  rw [List.append_nil] at hx
  exact Nat.ne_of_lt (a.lt_of_queued hx)

theorem Accounted.call {s : State} (a : s.Accounted) (hpub : publishedIn s.history = s.published)
    (r : Request) : (s.call r).Accounted := by
  have hid : s.callCount < s.callCount + 1 := Nat.lt_succ_self _
  have offers : ∀ line, r.line? s.settings = some line →
      ((s.begun r).offer s.callCount line).Accounted := by
    intro line hline
    unfold offer
    split
    · rename_i hconn
      refine (a.begun r).wait hid (fun x hx => a.unqueued r hx) fun l hl => ?_
      obtain rfl := Call.queueing.inj hl
      exact ⟨s.now, r, s.history, List.suffix_refl _, hline, hpub.trans hconn⟩
    · exact (a.begun r).returned hid _
  cases r with
  | connect =>
    rw [call_connect]
    split
    · exact (a.begun _).returned hid _
    · exact (a.begun _).wait hid (fun x hx => a.unqueued _ hx) (fun _ hl => nomatch hl)
  | shutdown =>
    exact (a.begun _).wait hid (fun x hx => a.unqueued _ hx) (fun _ hl => nomatch hl)
  | command token =>
    rw [call_command]
    split
    · exact (a.begun _).returned hid _
    · rename_i hne
      exact offers _ (if_neg hne)
  | sync => exact offers _ rfl

theorem Accounted.resume {s s' : State} (a : s.Accounted) {id : Nat}
    (hr : s.resume? id = some s') : s'.Accounted := by
  unfold resume? at hr
  split at hr
  · exact absurd hr (by simp)
  all_goals
    rename_i hc
    have hm := mem_of_lookup hc
    have hid : id < s.callCount := a.calls_lt _ hm
  · split at hr
    · exact Option.some.inj hr ▸ a.returned hid _
    · split at hr
      · have spawned : ({ s with phase := .starting, joinable := true }.record
            .spawned).Accounted := Accounts.record a rfl rfl (by simp [Event.call?])
        exact Option.some.inj hr ▸ spawned.returned hid _
      · exact Option.some.inj hr ▸ a.returned hid _
  · split at hr
    · exact Option.some.inj hr ▸ Accounts.wait a hid (a.fresh _ hm) (fun _ hl => nomatch hl)
    · exact Option.some.inj hr ▸ a.returned hid _
  · split at hr
    · exact Option.some.inj hr ▸ a.returned hid _
    · exact absurd hr (by simp)
  · split at hr
    · exact Option.some.inj hr ▸ a.returned hid _
    · split at hr
      · have queued := Accounts.enqueue a hm s.now
        refine Option.some.inj hr ▸ Accounts.record ?_ rfl rfl fun _ hi => Option.some.inj hi ▸ hid
        exact queued
      · exact absurd hr (by simp)

theorem Accounted.ingest {s : State} (a : s.Accounted) (line : String) :
    (s.ingest line).Accounted := by
  have received : (s.record (.received s.connections line)).Accounted :=
    Accounts.record a rfl rfl (by simp [Event.call?])
  unfold State.ingest
  dsimp only
  split
  · exact received
  · split
    · exact received
    · exact Accounts.record received rfl rfl (by simp [Event.call?])

theorem inHand_of_pending {s : State} {id : Nat} {line : String}
    (hp : s.pending? = some (.call id, line)) : s.phase.inHand = [⟨id, line⟩] := by
  unfold pending? at hp
  split at hp <;> grind [Phase.inHand, cases Ticket]

/-- The call whose line is being handed over has been made. -/
theorem Accounted.pending {s : State} (a : s.Accounted) (h : s.Tracked) {id : Nat} {line : String}
    (hp : s.pending? = some (.call id, line)) : id < s.callCount := by
  have hx : ⟨id, line⟩ ∈ s.phase.inHand ++ s.queue := by
    simp [inHand_of_pending hp]
  exact a.ticket_lt h hx

theorem Accounted.afterHanding {s : State} (a : s.Accounted) : s.afterHanding.Accounted := by
  unfold State.afterHanding
  split
  · unfold setHeartbeat
    split
    · exact a
    · exact Accounts.record a rfl rfl (by simp [Event.call?])
  all_goals exact a

theorem Accounted.move {s s' : State} (a : s.Accounted) (h : s.Tracked)
    (hpub : publishedIn s.history = s.published) {m : Move} (hm : s.move? m = some s') :
    s'.Accounted := by
  cases m with
  | elapse ms =>
    obtain ⟨-, hs⟩ := Option.ite_none_right_eq_some.mp hm
    exact Option.some.inj hs ▸ a
  | call r => exact Option.some.inj hm ▸ a.call hpub r
  | resume id => exact a.resume hm
  | act => exact a.act h hm
  | handed =>
    obtain ⟨⟨source, line⟩, hp, rfl⟩ := Option.map_eq_some_iff.mp hm
    refine Accounted.afterHanding (Accounts.record a rfl rfl fun id hid => ?_)
    cases source with
    | call i => exact Option.some.inj hid ▸ a.pending h hp
    | _ => exact nomatch hid
  | handFailed =>
    obtain ⟨⟨source, line⟩, hp, rfl⟩ := Option.map_eq_some_iff.mp hm
    refine Accounts.record a rfl rfl fun id hid => ?_
    cases source with
    | call i => exact Option.some.inj hid ▸ a.pending h hp
    | _ => exact nomatch hid
  | received line =>
    obtain ⟨-, hs⟩ := Option.ite_none_right_eq_some.mp hm
    exact Option.some.inj hs ▸ a.ingest line
  | closed =>
    obtain ⟨-, rfl⟩ := of_closed? hm
    exact Accounts.record a rfl rfl (by simp [Event.call?])
  | _ =>
    obtain ⟨-, hs⟩ := Option.ite_none_right_eq_some.mp hm
    exact Option.some.inj hs ▸ Accounts.record a rfl rfl (by simp [Event.call?])

theorem run_accounted (k : KeypadSettings) (ts : List Turn) : ((init k).run ts).Accounted := by
  have start : (init k).Accounted := ⟨rfl, by simp [init], by simp [init], by simp [init],
    List.nodup_nil, by simp [init], by simp [init]⟩
  refine (run_induction (P := fun s => s.Tracked ∧ s.Accounted) ?_
    ⟨tracked_init k, start⟩ ts).2
  intro s t s' ⟨h, a⟩ ht
  refine ⟨h.turn ht, ?_⟩
  cases t with
  | move m => exact a.move h h.publishedIn_eq ht
  | late ms => exact Option.some.inj ht ▸ a

theorem run_accounts (k : KeypadSettings) (ts : List Turn) :
    let s := (init k).run ts
    Accounts k s.calls s.callCount s.history := by
  have a := run_accounted k ts
  rw [Accounted, settings_run] at a
  exact a

end State
end AlarmKeypad.Session
