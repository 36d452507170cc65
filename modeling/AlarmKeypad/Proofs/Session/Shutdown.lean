import AlarmKeypad.Proofs.Session.Flushing
import AlarmKeypad.Proofs.Session.Poll
import AlarmKeypad.Proofs.Session.Wire

namespace AlarmKeypad.Session

/-- The heartbeats that are being handed over. -/
def Phase.beats : Phase → Nat
  | .pinging _ => 1
  | _ => 0

section
variable {P : Event → Prop} {c : Nat} {h h' : List Stamped}

/-- Only a heartbeat on the connection itself counts. -/
theorem pingsOn_cons (e : Stamped) : pingsOn c (e :: h) = pingsOn c h +
    e.event.handover?.toList.countP fun o => o.connection = c ∧ o.source = .heartbeat := by
  cases ho : e.event.handover? with
  | none => simp [pingsOn, handoversOn, ho]
  | some o =>
    by_cases hc : o.connection = c
    · subst hc
      simp [pingsOn_cons_of_handover ho]
    · simp [pingsOn, handoversOn, ho, Option.filter, hc]

theorem pingsOn_of_adds (ha : Adds P h h')
    (hP : ∀ e o, P e → e.handover? = some o → o.source ≠ .heartbeat) :
    pingsOn c h' = pingsOn c h := by
  refine ha.eq_of_cons fun e h he => ?_
  rw [pingsOn_cons, List.countP_eq_zero.mpr, Nat.add_zero]
  intro o ho
  simp [hP e.event o he (Option.mem_toList.mp ho)]

end

namespace State

variable {s s' : State} {t : Turn}

/-! ## Heartbeats -/

end State

/-- The one poll of a connection in use. -/
theorem Phase.live_of_polls {p : Phase} (hp : p.polls = true) (hb : p.awaits?.isSome = true) :
    ∃ d, p = .live d := by
  cases p with
  | live d => exact ⟨d, rfl⟩
  | dialing | opening | resting => exact nomatch hb
  | _ => exact nomatch hp

/-- The session has taken the end of the stream of a connection, or its failure. -/
def Lost (c : Nat) (h : List Stamped) : Prop := Has h (.hungUp c) ∨ Has h (.faulted c)

theorem Lost.mono {c : Nat} {past h : List Stamped} (hl : Lost c past) (hs : past <:+ h) :
    Lost c h :=
  hl.imp (·.mono hs) (·.mono hs)

namespace State

variable {s s' : State} {m : Move} {c : Nat} {want : List Ticket}

theorem handover_of_pollRest (hp : s.phase.polls = true) {e : Event}
    (he : Allows { s with cancelled := false } (.move m) e) : e.handover? = none := by
  cases e with
  | handed d source line | handFailed d source line =>
    have hpending := he.2.2
    grind [pending?, Phase.polls]
  | _ => rfl

/-- The rest of a poll keeps the connection in use, or takes the end of its stream. -/
theorem Flushes.pollRest (f : Flushes c want s) (hp : s.phase.polls = true)
    (hr : s.pollRest? m = some s') :
    Flushes c want s' ∧ debt c want s' ≤ debt c want s + 1 ∨ Lost c s'.history := by
  have ha := adds_pollRest hr
  have htries := tries_of_pollRest hp hr
  have htickets : ticketsOn c s'.history = ticketsOn c s.history :=
    ticketsOn_of_adds ha fun _ => handover_of_pollRest hp
  have busy := f.busy
  have keep (hb : s'.phase.awaits?.isSome = true) (hn : s'.connections = s.connections)
      (hd : s'.phase.distance ≤ s.phase.distance + 1) :
      Flushes c want s' ∧ debt c want s' ≤ debt c want s + 1 := by
    refine ⟨⟨f.tracked.tries htries, (cancelled_pollRest hr).trans f.told, hn.trans f.connection, hb,
      f.wanted.trans (queuedFor_isPrefix ha.suffix)⟩, ?_⟩
    rw [debt, debt, htickets]
    omega
  cases htries with
  | attempt hd | opened hd | refused hd | wake hd ht => simp [hd, Phase.awaits?] at busy
  | send hd hq | ping hd hq ht =>
    exact .inl (keep rfl rfl (by simp [hd, goTo, Phase.distance]))
  | received hd line =>
    refine .inl (keep ?_ (connections_ingest s line) ?_)
    · rwa [phase_ingest]
    · rw [phase_ingest]
      exact Nat.le_succ _
  | faulted hd => exact .inr (.inr (has_cons.mpr (.inl (by rw [f.connection]))))
  | hungUp hd => exact .inr (.inl (has_cons.mpr (.inl (by rw [f.connection]))))

end State

namespace Polled

variable {p p' : Polled} {b : Slice} {c : Nat} {want : List Ticket}

/-- The heartbeats that are being handed over, or that the poll under way may begin. -/
def beats (p : Polled) : Nat := p.state.phase.beats + p.polling.toNat

/-- What is missing until all of `want` has been handed over, with the poll that is under way. -/
def debt (c : Nat) (want : List Ticket) (p : Polled) : Nat :=
  State.debt c want p.state + p.polling.toNat

/-- Until the poll under way is over the session stays with its connection, or takes the end of its
stream. -/
theorem flushes_slice (hp : p.Sound) (f : State.Flushes c want p.state) (hpolling : p.polling = true)
    (hb : p.slice? b = some p') :
    State.Flushes c want p'.state ∧ p'.debt c want ≤ p.debt c want ∨
      Lost c p'.state.history := by
  cases step_of_slice hb with
  | look | whole => exact nomatch hpolling
  | @aside s t s' ha ht =>
    obtain ⟨d, hlive⟩ := Phase.live_of_polls hp.phase_polls f.busy
    have hm : s.phase.awaits? = some .act := by rw [hlive]; rfl
    have hne : t ≠ .move .act := fun heq => by simp [heq, Turn.IsAside] at ha
    have hfail : t ≠ .move .handFailed := fun heq => by simp [heq, Turn.IsAside] at ha
    obtain ⟨f', -, hdebt⟩ := f.aside hm hne hfail ht
    exact .inl ⟨f', Nat.le_of_eq (congrArg (· + 1) hdebt)⟩
  | nothing => exact .inl ⟨f, Nat.le_succ _⟩
  | @rest s m s' hr =>
    rcases f.pollRest hp.phase_polls hr with ⟨f', hdebt⟩ | hlost
    · have hopening : s'.phase ≠ .opening := by
        intro ho
        have hbusy := f'.busy
        simp [ho, Phase.awaits?] at hbusy
      refine .inl ⟨f', ?_⟩
      simpa [debt, hopening] using hdebt
    · exact .inr hlost

theorem flushes_run (hp : p.Sound) (f : State.Flushes c want p.state) (bs : List Slice)
    (hu : (p.run bs).state.Unbroken c) (hl : ¬Lost c (p.run bs).state.history) :
    (State.Sent c want (p.run bs).state ∨
      State.Flushes c want (p.run bs).state ∧ (p.run bs).debt c want ≤ p.debt c want) ∧
      State.SentBeforeEnd c want (p.run bs).state.history := by
  induction bs generalizing p with
  | nil => exact ⟨.inr ⟨f, Nat.le_refl _⟩, f.beforeEnd⟩
  | cons b bs ih =>
    obtain ⟨s, _ | _⟩ := p
    · rw [run_of_told rfl f.told] at hu ⊢
      exact ⟨f.run_le _ hu, f.run _ hu⟩
    · rw [run_cons] at hu hl ⊢
      cases hb : slice? ⟨s, true⟩ b with
      | none =>
        rw [slice_eq_self hb] at hu hl ⊢
        exact ih hp f hu hl
      | some p' =>
        rw [slice_eq hb] at hu hl ⊢
        rcases flushes_slice hp f rfl hb with ⟨f', hdebt⟩ | hlost
        · refine (ih (hp.slice hb) f' hu hl).imp_left fun hrun => hrun.imp_right fun ⟨hf, hle⟩ => ?_
          exact ⟨hf, hle.trans hdebt⟩
        · exact absurd (hlost.mono (p'.history_suffix_run bs)) hl

/-! ## Rounds -/

theorem mem_of_isRound {r : List Slice} (h : State.IsRound (r.filterMap Slice.turn?)) :
    .turn (.move .act) ∈ r := by
  obtain ⟨b, hb, ht⟩ := List.mem_filterMap.mp h.1
  cases b with
  | look => exact nomatch ht
  | turn t => exact Option.some.inj ht ▸ hb

/-- With a connection in use a round ends the poll that is under way. -/
theorem polling_run_of_isRound (hp : p.Sound) (f : State.Flushes c want p.state) {r : List Slice}
    (hr : State.IsRound (r.filterMap Slice.turn?)) : (p.run r).polling = false := by
  have hleft : p.pollsLeft ≤ 1 := by
    have hbusy := f.busy
    unfold pollsLeft
    split
    · rename_i hd
      simp [hd, Phase.awaits?] at hbusy
    · exact Nat.le_refl _
    · exact Nat.zero_le _
  have hcount : 0 < r.count (.turn (.move .act)) := List.count_pos_iff.mpr (mem_of_isRound hr)
  have hrun := pollsLeft_run hp f.told r
  exact polling_of_pollsLeft (by omega)

/-- Outside a poll the rounds are rounds of whole moves. -/
theorem sent_of_not_polling (hpolling : p.polling = false) (f : State.Flushes c want p.state)
    {rounds : List (List Slice)} (hr : ∀ r ∈ rounds, State.IsRound (r.filterMap Slice.turn?))
    (hn : State.debt c want p.state ≤ rounds.length + 1)
    (hu : (p.run rounds.flatten).state.Unbroken c) :
    State.Sent c want (p.run rounds.flatten).state := by
  rw [run_of_told hpolling f.told, List.filterMap_flatten] at hu ⊢
  refine f.sent (fun us hus => ?_) (by rwa [List.length_map]) hu
  obtain ⟨r, hmem, rfl⟩ := List.mem_map.mp hus
  exact hr r hmem

theorem unbroken_of_run {bs : List Slice} (hu : (p.run bs).state.Unbroken c) :
    p.state.Unbroken c where
  uncrashed hp := by
    refine hu.uncrashed (state_run (P := fun s => s.phase = .crashed)
      (fun _ _ _ => State.crashed_turn) (fun s m s' hs hr => ?_) hp bs)
    obtain ⟨u, hu, rfl⟩ := State.of_pollRest hr
    have hcrashed := State.crashed_turn (s := { s with cancelled := false }) (t := .move m) hs hu
    exact hcrashed
  unfailed hm := hu.unfailed ((collect_isPrefix (p.history_suffix_run bs)).subset hm)

theorem sent_run (hs : State.Sent c want p.state) (bs : List Slice) :
    State.Sent c want (p.run bs).state :=
  List.IsPrefix.trans hs (ticketsOn_isPrefix (p.history_suffix_run bs))

/-- The first round ends the poll that is under way, and the others hand over all of `want`. -/
theorem sent (hp : p.Sound) (f : State.Flushes c want p.state) {r : List Slice}
    {rounds : List (List Slice)}
    (hr : ∀ q ∈ r :: rounds, State.IsRound (q.filterMap Slice.turn?))
    (hn : p.debt c want ≤ rounds.length + 1)
    (hu : (p.run (r :: rounds).flatten).state.Unbroken c)
    (hl : ¬Lost c (p.run (r :: rounds).flatten).state.history) :
    State.Sent c want (p.run (r :: rounds).flatten).state := by
  have hr' : ∀ q ∈ rounds, State.IsRound (q.filterMap Slice.turn?) :=
    fun q hq => hr q (List.mem_cons_of_mem _ hq)
  rw [List.flatten_cons, run_append] at hu hl ⊢
  have hu' : (p.run r).state.Unbroken c := unbroken_of_run hu
  have hl' : ¬Lost c (p.run r).state.history :=
    fun hlost => hl (hlost.mono (history_suffix_run _ _))
  rcases (flushes_run hp f r hu' hl').1 with hsent | ⟨f', hdebt⟩
  · exact sent_run hsent _
  · have hpolling : (p.run r).polling = false :=
      polling_run_of_isRound hp f (hr r List.mem_cons_self)
    have hle : State.debt c want (p.run r).state ≤ (p.run r).debt c want := Nat.le_add_right _ _
    exact sent_of_not_polling hpolling f' hr' (by omega) hu

end Polled

/-- A command has been accepted, and the heartbeat is due, when shutdown is called. -/
def pressed : List Slice :=
  List.map .turn
    (Turn.begins ++ [.move (.call (.command "<AWAY>")), .move (.resume 1), .late 15000])

set_option maxRecDepth 10000 in
/-- A poll that has looked for a call for shutdown before this came may take the end of the stream,
and the command is lost. -/
example :
    let p := (Polled.init .default).run (pressed ++ [.look])
    let p' := (p.call .shutdown).run
      (.turn (.move .hungUp) :: (List.replicate 5 (State.proceed.map .turn)).flatten)
    p.polling = true ∧ ticketsOn 1 p'.state.history = [] := by
  decide +kernel

end AlarmKeypad.Session
