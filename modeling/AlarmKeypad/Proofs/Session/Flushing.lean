import AlarmKeypad.Proofs.Session.Acceptance
import AlarmKeypad.Proofs.Session.Handle
/-!
# On the way to the end of the queue

A session that has been told to stop uses its connection until the queue is empty. One kind of move
leads it on from each phase, and each such move brings it nearer; no other turn takes it back.
-/

namespace AlarmKeypad.Session

namespace Phase

def IsLive : Phase → Prop
  | draining | announcing | greeting | live _ | sending .. | pinging _ | flushing
  | flushSending _ => True
  | _ => False

/-- The move that leads on, with a connection and no more stale lines. -/
def awaits? : Phase → Option Move
  | announcing | live _ | flushing => some .act
  | greeting | sending .. | pinging _ | flushSending _ => some .handed
  | _ => none

/-- How many moves the next line of the queue is away from being handed over. -/
def distance : Phase → Nat
  | announcing => 4
  | greeting | sending .. | pinging _ => 3
  | live _ => 2
  | flushing => 1
  | _ => 0

end Phase

def Event.failed? : Event → Option Nat
  | .handFailed c .. => some c
  | _ => none

section
variable {P : Event → Prop} {c : Nat} {h h' : List Stamped}

theorem queuedFor_isPrefix (hs : h <:+ h') : queuedFor c h <+: queuedFor c h' := by
  induction h' with
  | nil => exact List.suffix_nil.mp hs ▸ List.prefix_refl _
  | cons e h' ih =>
    rcases List.suffix_cons_iff.mp hs with rfl | hs
    · exact List.prefix_refl _
    · exact (ih hs).trans (List.prefix_append _ _)

theorem ticketsOn_isPrefix (hs : h <:+ h') : ticketsOn c h <+: ticketsOn c h' :=
  (collect_isPrefix hs).filterMap _

theorem ticketsOn_of_adds (ha : Adds P h h') (hP : ∀ e, P e → e.handover? = none) :
    ticketsOn c h' = ticketsOn c h :=
  ha.eq_of_cons fun _ _ he => ticketsOn_cons_of_no_handover (hP _ he)

end

namespace State

variable {s s' : State} {t : Turn} {m : Move}

theorem of_handed? (h : s.handed? = some s') : ∃ source line,
    s.pending? = some (source, line) ∧
      s' = (s.record (.handed s.connections source line)).afterHanding := by
  obtain ⟨⟨source, line⟩, hp, hs⟩ := Option.map_eq_some_iff.mp h
  exact ⟨source, line, hp, hs.symm⟩

/-! ## What a turn does to a session that has been told to stop -/

theorem phase_of_awaits (hc : s.cancelled = true) (hm : s.phase.awaits? = some m)
    (hne : t ≠ .move m) (hf : t ≠ .move .handFailed) (ht : s.turn? t = some s') :
    s'.phase = s.phase := by
  refine (advances_turn ht).phase fun hl => ?_
  unfold Leaves at hl
  split at hl <;> grind [act?, pending?, Listens, Phase.awaits?]

theorem handover_of_awaits (hm : s.phase.awaits? = some m) (hne : t ≠ .move m)
    (hf : t ≠ .move .handFailed) {e : Event} (he : s.Allows t e) : e.handover? = none := by
  cases e with
  | handed c source line =>
    obtain ⟨rfl, -, hp⟩ := he
    grind [pending?, Phase.awaits?]
  | handFailed c source line => exact absurd he.1 hf
  | _ => rfl

/-! ## A connection in use -/

/-- All of `want` has been handed to a connection. -/
def Sent (c : Nat) (want : List Ticket) (s : State) : Prop := want <+: ticketsOn c s.history

/-- A session that has been told to stop uses its connection still, for which all of `want` has
been queued. -/
structure Flushes (c : Nat) (want : List Ticket) (s : State) : Prop where
  tracked : s.Tracked
  told : s.cancelled = true
  connection : s.connections = c
  busy : s.phase.awaits?.isSome = true
  wanted : want <+: queuedFor c s.history

/-- How many moves are missing, at most, until all of `want` has been handed over. -/
def debt (c : Nat) (want : List Ticket) (s : State) : Nat :=
  s.phase.distance + 2 * (want.length - (ticketsOn c s.history).length)

/-- No line has failed on a connection, and the session has not crashed. -/
structure Unbroken (c : Nat) (s : State) : Prop where
  uncrashed : s.phase ≠ .crashed
  unfailed : c ∉ collect Event.failed? s.history

variable {c : Nat} {want : List Ticket}

theorem Tracked.length_opened (h : s.Tracked) :
    (collect Event.opened? s.history).length = s.connections := by
  obtain ⟨q, ht, hs⟩ := h
  rw [ht.opened, List.length_range', hs.connection]

/-- Only an attempt opens a connection. -/
theorem connections_turn (h : s.Tracked) (ho : ¬(s.phase = .opening ∧ s.cancelled = false))
    (ht : s.turn? t = some s') : s'.connections = s.connections := by
  rw [← (h.turn ht).length_opened, ← h.length_opened, (advances_turn ht).adds.collect_eq]
  intro e he
  cases e with
  | opened n => exact absurd he ho
  | _ => rfl

theorem Flushes.next (f : Flushes c want s) (ht : s.turn? t = some s')
    (hb : s'.phase.awaits?.isSome = true) : Flushes c want s' where
  tracked := f.tracked.turn ht
  told := (advances_turn ht).told f.told
  connection := (connections_turn f.tracked (fun ho => nomatch f.told.symm.trans ho.2) ht).trans
    f.connection
  busy := hb
  wanted := f.wanted.trans (queuedFor_isPrefix (advances_turn ht).adds.suffix)

/-- What a connection in use has still to take is in hand or in the queue. -/
theorem Tracked.queuedFor_of_awaits (h : s.Tracked) (hb : s.phase.awaits?.isSome = true) :
    queuedFor s.connections s.history =
      ticketsOn s.connections s.history ++ (s.phase.inHand ++ s.queue) := by
  refine h.queuedFor_eq ?_ ?_
  · obtain ⟨q, ht, hs⟩ := h
    refine hs.connection ▸ ht.connection_pos ?_
    have fits := hs.fits
    cases hp : s.phase with
    | ended e => simp [hp, Phase.awaits?] at hb
    | _ => grind [Phase.Fits, Phase.awaits?, Stage.isOpen]
  · intro hp
    simp [hp, Phase.awaits?] at hb

/-- As many lines as are wanted are those that are wanted. -/
theorem Flushes.sent_of_length_le (f : Flushes c want s)
    (hl : want.length ≤ (ticketsOn c s.history).length) : Sent c want s := by
  obtain ⟨q, ht, -⟩ := f.tracked
  exact List.prefix_of_prefix_length_le f.wanted (ht.windows.all c) hl

/-- With nothing in the queue and nothing in hand all has been handed over. -/
theorem Flushes.sent_of_flushing (f : Flushes c want s) (hp : s.phase = .flushing)
    (hq : s.queue = []) : Sent c want s := by
  have hall := f.tracked.queuedFor_of_awaits f.busy
  rw [hq, hp, f.connection] at hall
  have hwanted : want <+: ticketsOn c s.history ++ [] := hall ▸ f.wanted
  rwa [List.append_nil] at hwanted

/-- Anything but the move that leads on leaves the session where it is. -/
theorem Flushes.aside (f : Flushes c want s) (hm : s.phase.awaits? = some m) (hne : t ≠ .move m)
    (hf : t ≠ .move .handFailed) (ht : s.turn? t = some s') :
    Flushes c want s' ∧ s'.phase = s.phase ∧ debt c want s' = debt c want s := by
  have hphase := phase_of_awaits f.told hm hne hf ht
  have htickets : ticketsOn c s'.history = ticketsOn c s.history :=
    ticketsOn_of_adds (advances_turn ht).adds fun e he => handover_of_awaits hm hne hf he
  exact ⟨f.next ht (hphase ▸ f.busy), hphase, by rw [debt, debt, hphase, htickets]⟩

theorem ticketsOn_act (ha : s.act? = some s') : ticketsOn c s'.history = ticketsOn c s.history := by
  refine ticketsOn_of_adds (advances_act ha).adds fun e he => ?_
  cases e with
  | handed c source line | handFailed c source line => exact nomatch he.1
  | _ => rfl

/-- The session's own step: it turns to the queue, takes its next line in hand, or is done. -/
theorem Flushes.act (f : Flushes c want s) (hm : s.phase.awaits? = some .act)
    (ha : s.act? = some s') :
    (Flushes c want s' ∧ debt c want s' < debt c want s) ∨
      s'.history = s.history ∧ Sent c want s' := by
  have htickets : ticketsOn c s'.history = ticketsOn c s.history := ticketsOn_act ha
  have hnext := f.next (t := .move .act) ha
  have hdebt : s'.phase.distance < s.phase.distance → debt c want s' < debt c want s := by
    intro hd
    rw [debt, debt, htickets]
    omega
  cases hp : s.phase with
  | announcing =>
    simp only [act?, hp] at ha
    obtain rfl := Option.some.inj ha
    exact .inl ⟨hnext rfl, hdebt (by simp [hp, goTo, Phase.distance])⟩
  | live d =>
    simp only [act?, hp, f.told, if_true] at ha
    obtain rfl := Option.some.inj ha
    exact .inl ⟨hnext rfl, hdebt (by simp [hp, goTo, Phase.distance])⟩
  | flushing =>
    simp only [act?, hp] at ha
    split at ha
    · rename_i hq
      obtain rfl := Option.some.inj ha
      exact .inr ⟨rfl, f.sent_of_flushing hp hq⟩
    · obtain rfl := Option.some.inj ha
      exact .inl ⟨hnext rfl, hdebt (by simp [hp, goTo, Phase.distance])⟩
  | _ => simp [hp, Phase.awaits?] at hm

/-- Where a hand-over leads: on the way, unless the session crashes. -/
theorem afterHanding_of_awaits (hm : s.phase.awaits? = some .handed) {source : Source}
    {line : String} (hp : s.pending? = some (source, line))
    (hu : (s.record (.handed s.connections source line)).afterHanding.phase ≠ .crashed) :
    ∃ p, (s.record (.handed s.connections source line)).afterHanding =
        (s.record (.handed s.connections source line)).goTo p ∧ p.awaits?.isSome = true ∧
      p.distance < s.phase.distance +
        2 * (Handover.mk s.connections source line).ticket?.toList.length := by
  obtain ⟨settings, now, phase, cancelled, joinable, published, mode, tracker, snapshot, queue,
    calls, callCount, attempts, connections, history⟩ := s
  cases phase with
  | greeting =>
    obtain ⟨rfl, rfl⟩ := Prod.mk.inj (Option.some.inj hp)
    by_cases hb : settings.HasHeartbeat now
    · exact ⟨_, if_pos hb, rfl, Nat.lt_succ_self 2⟩
    · refine absurd ?_ hu
      exact congrArg State.phase (if_neg hb)
  | sending x d =>
    obtain ⟨rfl, rfl⟩ := Prod.mk.inj (Option.some.inj hp)
    exact ⟨.live d, rfl, rfl, show 2 < 3 + 2 by decide⟩
  | pinging d =>
    obtain ⟨rfl, rfl⟩ := Prod.mk.inj (Option.some.inj hp)
    exact ⟨.live d, rfl, rfl, Nat.lt_succ_self 2⟩
  | flushSending x =>
    obtain ⟨rfl, rfl⟩ := Prod.mk.inj (Option.some.inj hp)
    exact ⟨.flushing, rfl, rfl, show 1 < 0 + 2 by decide⟩
  | _ => exact nomatch hm

/-- What is in hand goes over. -/
theorem Flushes.handed (f : Flushes c want s) (hm : s.phase.awaits? = some .handed)
    (hh : s.handed? = some s') (hu : s'.phase ≠ .crashed) :
    Flushes c want s' ∧ (Sent c want s' ∨ debt c want s' < debt c want s) := by
  have hnext := f.next (t := .move .handed) hh
  obtain ⟨source, line, hpending, rfl⟩ := of_handed? hh
  obtain ⟨p, hafter, hbusy, hdistance⟩ := afterHanding_of_awaits hm hpending hu
  have htickets : ticketsOn c (s.record (.handed s.connections source line)).history =
      ticketsOn c s.history ++ (Handover.mk s.connections source line).ticket?.toList := by
    rw [record, ticketsOn_cons_of_handover rfl, if_pos f.connection]
  rw [hafter] at hnext ⊢
  refine ⟨hnext hbusy, ?_⟩
  by_cases hl : want.length ≤ (ticketsOn c s.history).length
  · have hsent : Sent c want s := f.sent_of_length_le hl
    exact .inl (hsent.trans (ticketsOn_isPrefix (List.suffix_cons _ _)))
  · refine .inr ?_
    have hone : (Handover.mk s.connections source line).ticket?.toList.length ≤ 1 := by
      cases (Handover.mk s.connections source line).ticket? <;> simp
    simp only [debt, goTo, htickets, List.length_append]
    omega

theorem awaits_cases {p : Phase} (hm : p.awaits? = some m) : m = .act ∨ m = .handed := by
  cases p <;> simp_all [Phase.awaits?, eq_comm]

/-- The move that leads on is always possible. -/
theorem Flushes.isSome_move (f : Flushes c want s) (hm : s.phase.awaits? = some m) :
    (s.move? m).isSome = true := by
  have hc := f.told
  obtain ⟨settings, now, phase, cancelled, joinable, published, mode, tracker, snapshot, queue,
    calls, callCount, attempts, connections, history⟩ := s
  obtain rfl : cancelled = true := hc
  cases phase with
  | flushing =>
    obtain rfl := Option.some.inj hm
    cases queue <;> rfl
  | announcing | live d | greeting | sending x d | pinging d | flushSending x =>
    obtain rfl := Option.some.inj hm
    rfl
  | _ => exact nomatch hm

/-- Unless something breaks, a session goes on until all of `want` has been handed over. -/
theorem Flushes.step (f : Flushes c want s) (hm : s.phase.awaits? = some m)
    (hu : s'.Unbroken c) (ht : s.turn? t = some s') :
    (Flushes c want s' ∧ (Sent c want s' ∨
      if t = .move m then debt c want s' < debt c want s
      else s'.phase = s.phase ∧ debt c want s' = debt c want s)) ∨
      s'.history = s.history ∧ Sent c want s' := by
  by_cases heq : t = .move m
  · rw [if_pos heq]
    subst heq
    rcases awaits_cases hm with rfl | rfl
    · exact (f.act hm ht).imp_left fun ⟨hf, hd⟩ => ⟨hf, .inr hd⟩
    · exact .inl (f.handed hm ht hu.uncrashed)
  · rw [if_neg heq]
    by_cases hfail : t = .move .handFailed
    · subst hfail
      obtain ⟨⟨source, line⟩, -, rfl⟩ := Option.map_eq_some_iff.mp ht
      refine absurd ?_ hu.unfailed
      exact List.mem_append_right _ (List.mem_singleton.mpr f.connection.symm)
    · obtain ⟨hf, hphase, hdebt⟩ := f.aside hm heq hfail ht
      exact .inl ⟨hf, .inr ⟨hphase, hdebt⟩⟩

theorem crashed_turn (hp : s.phase = .crashed) (ht : s.turn? t = some s') :
    s'.phase = .crashed := by
  refine ((advances_turn ht).phase fun hl => ?_).trans hp
  unfold Leaves at hl
  split at hl <;> grind [act?, pending?, Listens]

/-- What is unbroken at the end of a run was so before. -/
theorem Unbroken.of_run {us : List Turn} (hu : (s.run us).Unbroken c) : s.Unbroken c where
  uncrashed hp := hu.uncrashed
    (run_induction (P := fun u => u.phase = .crashed) (fun _ _ _ => crashed_turn) hp us)
  unfailed hm := hu.unfailed ((collect_isPrefix (s.history_suffix_run us)).subset hm)

/-! ## Before the end of the connection -/

/-- All of `want` is handed to a connection before that comes to an end. -/
def SentBeforeEnd (c : Nat) (want : List Ticket) (h : List Stamped) : Prop :=
  ∀ e past, e :: past <:+ h → e.event.Ends c → want <+: ticketsOn c past

theorem Sent.beforeEnd {h : List Stamped} (hs : Sent c want s)
    (hb : SentBeforeEnd c want s.history) (hh : s.history <:+ h) : SentBeforeEnd c want h := by
  intro e past he hend
  rcases List.suffix_or_suffix_of_suffix he hh with hold | hnew
  · exact hb e past hold hend
  · rcases List.suffix_cons_iff.mp hnew with heq | hnew
    · exact hb e past (heq ▸ List.suffix_refl _) hend
    · exact hs.trans (ticketsOn_isPrefix hnew)

theorem isLive_of_awaits {p : Phase} (hb : p.awaits?.isSome = true) : p.IsLive := by
  cases p <;> trivial

/-- A connection in use has not come to an end. -/
theorem Tracked.not_ends (h : s.Tracked) (hl : s.phase.IsLive) {e : Stamped}
    (he : e ∈ s.history) : ¬e.event.Ends s.connections := by
  obtain ⟨q, ht, hs⟩ := h
  have fits := hs.fits
  have hstanding : q.stage.isStanding = true := by
    cases hp : s.phase with
    | ended e => simp [hp, Phase.IsLive] at hl
    | _ => grind [Phase.Fits, Phase.IsLive, Stage.isStanding]
  rw [hs.connection]
  exact ht.standing hstanding he

theorem Flushes.beforeEnd (f : Flushes c want s) : SentBeforeEnd c want s.history := by
  intro e past he hend
  have hlive := isLive_of_awaits f.busy
  exact absurd (f.connection ▸ hend) (f.tracked.not_ends hlive (he.mem List.mem_cons_self))

theorem Flushes.run (f : Flushes c want s) (us : List Turn) (hu : (s.run us).Unbroken c) :
    SentBeforeEnd c want (s.run us).history := by
  suffices h : (s.run us).Unbroken c → Flushes c want (s.run us) ∨
      Sent c want (s.run us) ∧ SentBeforeEnd c want (s.run us).history from
    (h hu).elim Flushes.beforeEnd And.right
  -- the connection has not ended before all is sent, and what has been sent stays so
  refine run_prefix_induction (P := fun u => u.Unbroken c → Flushes c want u ∨
    Sent c want u ∧ SentBeforeEnd c want u.history) ?_ (fun _ => .inl f) us
  intro ts t u ih ht hu
  have hrun : u = (s.run ts).run [t] := (turn_eq ht).symm
  rcases ih (hrun ▸ hu).of_run with hf | ⟨hsent, hb⟩
  · obtain ⟨m, hm⟩ := Option.isSome_iff_exists.mp hf.busy
    rcases hf.step hm hu ht with ⟨hf', -⟩ | ⟨hh, hsent⟩
    · exact .inl hf'
    · exact .inr ⟨hsent, hh ▸ hf.beforeEnd⟩
  · have hsuffix := (advances_turn ht).adds.suffix
    exact .inr ⟨hsent.trans (ticketsOn_isPrefix hsuffix), hsent.beforeEnd hb hsuffix⟩

/-! ## The queue goes out -/

theorem Sent.run (hs : Sent c want s) (us : List Turn) : Sent c want (s.run us) :=
  List.IsPrefix.trans hs (ticketsOn_isPrefix (s.history_suffix_run us))

theorem Flushes.turn (f : Flushes c want s) (hm : s.phase.awaits? = some m)
    (hu : (s.turn t).Unbroken c) : Sent c want (s.turn t) ∨ Flushes c want (s.turn t) ∧
      if t = .move m then debt c want (s.turn t) < debt c want s
      else (s.turn t).phase = s.phase ∧ debt c want (s.turn t) = debt c want s := by
  cases ht : s.turn? t with
  | none =>
    rw [turn_eq_self ht]
    refine .inr ⟨f, ?_⟩
    have hne : t ≠ .move m := by
      rintro rfl
      obtain ⟨u, hu⟩ := Option.isSome_iff_exists.mp (f.isSome_move hm)
      exact nomatch hu.symm.trans ht
    rw [if_neg hne]
    exact ⟨rfl, rfl⟩
  | some s' =>
    rw [turn_eq ht] at hu ⊢
    rcases f.step hm hu ht with ⟨hf, hsent | hdebt⟩ | ⟨-, hsent⟩
    · exact .inl hsent
    · exact .inr ⟨hf, hdebt⟩
    · exact .inl hsent

theorem Flushes.run_le (f : Flushes c want s) (us : List Turn) (hu : (s.run us).Unbroken c) :
    Sent c want (s.run us) ∨
      Flushes c want (s.run us) ∧ debt c want (s.run us) ≤ debt c want s := by
  induction us generalizing s with
  | nil => exact .inr ⟨f, Nat.le_refl _⟩
  | cons t us ih =>
    obtain ⟨m, hm⟩ := Option.isSome_iff_exists.mp f.busy
    rcases f.turn hm (Unbroken.of_run (s := s.turn t) hu) with hsent | ⟨hf, hdebt⟩
    · exact .inl (hsent.run us)
    · refine (ih hf hu).imp_right fun ⟨hrun, hle⟩ => ⟨hrun, hle.trans ?_⟩
      split at hdebt <;> omega

/-- The move that leads on comes at some time, and till then the session stays where it is. -/
theorem Flushes.run_lt (f : Flushes c want s) (hm : s.phase.awaits? = some m) {us : List Turn}
    (hmem : .move m ∈ us) (hu : (s.run us).Unbroken c) : Sent c want (s.run us) ∨
      Flushes c want (s.run us) ∧ debt c want (s.run us) < debt c want s := by
  -- until the move comes the phase is the same, and so is the move that it awaits
  induction us generalizing s with
  | nil => exact nomatch hmem
  | cons t us ih =>
    rcases f.turn hm (Unbroken.of_run (s := s.turn t) hu) with hsent | ⟨hf, hdebt⟩
    · exact .inl (hsent.run us)
    · by_cases heq : t = .move m
      · rw [if_pos heq] at hdebt
        exact (hf.run_le us hu).imp_right fun ⟨hrun, hle⟩ => ⟨hrun, Nat.lt_of_le_of_lt hle hdebt⟩
      · rw [if_neg heq] at hdebt
        have hmem' : .move m ∈ us := (List.mem_cons.mp hmem).resolve_left (Ne.symm heq)
        exact (ih hf (hdebt.1 ▸ hm) hmem' hu).imp_right fun ⟨hrun, hlt⟩ => ⟨hrun, hdebt.2 ▸ hlt⟩

/-- The session takes a step and a line goes over, and whatever else happens. -/
def IsRound (us : List Turn) : Prop := .move .act ∈ us ∧ .move .handed ∈ us

theorem Flushes.run_rounds (f : Flushes c want s) {rounds : List (List Turn)}
    (hr : ∀ us ∈ rounds, IsRound us) (hu : (s.run rounds.flatten).Unbroken c) :
    Sent c want (s.run rounds.flatten) ∨ Flushes c want (s.run rounds.flatten) ∧
      debt c want (s.run rounds.flatten) + rounds.length ≤ debt c want s := by
  induction rounds generalizing s with
  | nil => exact .inr ⟨f, Nat.le_refl _⟩
  | cons us rounds ih =>
    obtain ⟨m, hm⟩ := Option.isSome_iff_exists.mp f.busy
    obtain ⟨hact, hhanded⟩ := hr us List.mem_cons_self
    have hmem : .move m ∈ us := by
      rcases awaits_cases hm with rfl | rfl
      · exact hact
      · exact hhanded
    rw [List.flatten_cons, run_append] at hu ⊢
    rcases f.run_lt hm hmem hu.of_run with hsent | ⟨hf, hlt⟩
    · exact .inl (hsent.run _)
    · refine (ih hf (fun us hus => hr us (List.mem_cons_of_mem _ hus)) hu).imp_right
        fun ⟨hrun, hle⟩ => ⟨hrun, ?_⟩
      rw [List.length_cons]
      omega

/-- So many rounds hand over all of `want`. -/
theorem Flushes.sent (f : Flushes c want s) {rounds : List (List Turn)}
    (hr : ∀ us ∈ rounds, IsRound us) (hn : debt c want s ≤ rounds.length + 1)
    (hu : (s.run rounds.flatten).Unbroken c) : Sent c want (s.run rounds.flatten) := by
  rcases f.run_rounds hr hu with hsent | ⟨hf, hle⟩
  · exact hsent
  · refine hf.sent_of_length_le ?_
    rw [debt] at hle
    omega

end State
end AlarmKeypad.Session
