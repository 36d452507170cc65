import AlarmKeypad.Proofs.Session.Flushing
import AlarmKeypad.Proofs.Session.Wire

namespace AlarmKeypad.Session

/-- The connection that is lost: the stream or a hand-over fails, or the device hangs up. -/
def Event.lost? : Event → Option Nat
  | .faulted c | .handFailed c .. | .hungUp c => some c
  | _ => none

def isSend (line : String) : Bool := "!SEND:".toList.isPrefixOf line.toList

def Event.command? : Event → Option String
  | .handed _ _ line => if isSend line then some line else none
  | _ => none

def sends (h : List Stamped) : List String := collect Event.command? h

/-- A line has gone over a connection that was open. -/
def WentOver (line : String) (h : List Stamped) : Prop :=
  ∃ t c source past, ⟨t, .handed c source line⟩ :: past <:+ h ∧ openIn past = [c]

variable {k : KeypadSettings} {h : List Stamped} {q : Track} {c : Nat}

theorem isSend_render (token : String) : isSend (ControlLine.send token).render = true := by
  rw [render_send, isSend, String.toList_append, List.isPrefixOf_iff_prefix]
  exact List.prefix_append _ _

theorem isSend_syncLine (k : KeypadSettings) : isSend k.syncLine = false := by
  simp [isSend, syncLine_eq, String.toList_append, List.isPrefixOf]

theorem isSend_pingLine (k : KeypadSettings) : isSend k.pingLine = false := by
  simp [isSend, pingLine_eq, String.toList_append, List.isPrefixOf]

/-- No session asks for a command by itself. -/
theorem Tracks.sends_sublist (ht : Tracks k h q) :
    (sends h).Sublist ((collect Event.queued? h).map Ticket.line) := by
  suffices hsent : (sends h).Sublist ((collect Event.sent? h).map Ticket.line) from
    hsent.trans (ht.sent_sublist.map _)
  induction ht with
  | start => exact .slnil
  | next hp hn ih =>
    rw [sends, collect_cons, collect_cons, List.map_append]
    refine ih.append ?_
    cases hn with
    | hand hh =>
      cases hh with
      | greeting => simp [Event.command?, isSend_syncLine]
      | heartbeat => simp [Event.command?, isSend_pingLine]
      | ticket since pings n x w b t =>
        have hsent : Event.sent? (.handed n (.call x.call) x.line) = some x := rfl
        rw [hsent, Event.command?]
        split
        · exact .refl _
        · exact List.nil_sublist _
    | _ => exact List.nil_sublist _

theorem Tracks.wentOver (ht : Tracks k h q) {line : String} (hl : line ∈ sends h) :
    WentOver line h := by
  obtain ⟨⟨t, e⟩, past, he, hline⟩ := exists_suffix_of_mem_collect hl
  cases e with
  | handed c source l =>
    obtain ⟨-, heq⟩ := Option.ite_none_right_eq_some.mp hline
    obtain rfl := Option.some.inj heq
    exact ⟨t, c, source, past, he, (ht.orderly he rfl).isOpen⟩
  | _ => exact nomatch hline

/-- A command that was handed to a connection has gone over, unless the connection is lost. -/
theorem mem_sends_of_mem_ticketsOn {x : Ticket} (hx : x ∈ ticketsOn c h)
    (hs : isSend x.line = true) : x.line ∈ sends h ∨ c ∈ collect Event.lost? h := by
  obtain ⟨o, ho, hticket⟩ := List.mem_filterMap.mp hx
  obtain ⟨rfl, e, he, hover⟩ := mem_handoversOn.mp ho
  obtain ⟨d, source, line⟩ := o
  cases source with
  | call id =>
    obtain rfl := Option.some.inj hticket
    obtain ⟨t, e⟩ := e
    cases e with
    | handed d' source' line' =>
      obtain ⟨rfl, rfl, rfl⟩ := Handover.mk.inj (Option.some.inj hover)
      exact .inl (mem_collect.mpr ⟨_, he, if_pos hs⟩)
    | handFailed d' source' line' =>
      obtain ⟨rfl, rfl, rfl⟩ := Handover.mk.inj (Option.some.inj hover)
      exact .inr (mem_collect.mpr ⟨_, he, rfl⟩)
    | _ => exact nomatch hover
  | _ => exact nomatch hticket

/-- A connection that is gone has been lost. -/
theorem Tracks.mem_lost (ht : Tracks k h q)
    (hq : q.stage = .failed ∨ q.stage = .hungUp ∨ q.stage = .lost) :
    q.connection ∈ collect Event.lost? h := by
  induction ht with
  | start => simp [Track.start] at hq
  | next hp hn ih =>
    rw [collect_cons, List.mem_append]
    cases hn with
    | hand hh => cases hh <;> simp at hq
    | fail hh => exact .inr (by cases hh <;> simp [Event.lost?])
    | fault | hangUp => simp [Event.lost?]
    | _ => simp_all

namespace State
variable {s s' : State} {t : Turn} {x : Ticket}

/-- The session has a connection for lines to go over. -/
structure InUse (c : Nat) (s : State) : Prop where
  connection : s.connections = c
  busy : s.phase.awaits?.isSome = true

def Failed (c : Nat) (s : State) : Prop :=
  c ∈ collect Event.lost? s.history ∨ s.phase = .crashed

instance (c : Nat) (s : State) : Decidable (Failed c s) := inferInstanceAs (Decidable (_ ∨ _))

theorem Failed.turn (h : Failed c s) (ht : s.turn? t = some s') : Failed c s' :=
  h.imp ((collect_isPrefix (advances_turn ht).adds.suffix).mem ·) fun hp => crashed_turn hp ht

theorem failed_record {e : Event} {p : Phase} (he : e.lost? = some c) :
    Failed c ((s.record e).goTo p) :=
  .inl (mem_collect.mpr ⟨_, List.mem_cons_self, he⟩)

/-- A connection that is published is in use, or has failed, while shutdown has not been called. -/
theorem Tracked.inUse_or_failed (h : s.Tracked) (hpub : s.published = .connected)
    (hc : s.cancelled = false) : InUse s.connections s ∨ Failed s.connections s := by
  obtain ⟨q, ht, hs⟩ := h
  have hstage : q.stage.published = .connected := hs.published.symm.trans hpub
  by_cases hl : q.stage = .failed ∨ q.stage = .hungUp ∨ q.stage = .lost
  · exact .inr (.inl (hs.connection ▸ ht.mem_lost hl))
  · by_cases hcrash : s.phase = .crashed
    · exact .inr (.inr hcrash)
    · refine .inl ⟨rfl, ?_⟩
      have fits := hs.fits
      cases hp : s.phase with
      | ended e => cases e <;> grind [Phase.Fits]
      | _ => grind [Phase.Fits, Phase.awaits?, Stage.published]

/-- A connection in use stays so until it fails, or the queue of a session that has been told to
stop is empty. -/
theorem InUse.turn (h : InUse c s) (tracked : s.Tracked) (ht : s.turn? t = some s') :
    InUse c s' ∨ Failed c s' ∨ s.phase = .flushing ∧ s.queue = [] ∧ s'.history = s.history := by
  have hconnections : s'.connections = c := by
    refine (connections_turn tracked (fun ho => ?_) ht).trans h.connection
    have hbusy := h.busy
    simp [ho.1, Phase.awaits?] at hbusy
  by_cases hl : s.Leaves t
  · cases t with
    | late ms => exact hl.elim
    | move m =>
      cases m with
      | act =>
        change s.act? = some s' at ht
        have hbusy := h.busy
        unfold act? at ht
        split at ht <;> grind [InUse, Phase.awaits?, goTo, publish, State.record]
      | handed =>
        have hm : s.phase.awaits? = some .handed := by
          obtain ⟨r, hr⟩ := Option.isSome_iff_exists.mp hl
          have hbusy := h.busy
          unfold pending? at hr
          split at hr <;> simp_all [Phase.awaits?]
        by_cases hcrash : s'.phase = .crashed
        · exact .inr (.inl (.inr hcrash))
        · obtain ⟨source, line, hpending, rfl⟩ := of_handed? ht
          obtain ⟨p, hafter, hbusy, -⟩ := afterHanding_of_awaits hm hpending hcrash
          exact .inl ⟨hconnections, hafter ▸ hbusy⟩
      | handFailed =>
        obtain ⟨⟨source, line⟩, -, rfl⟩ := Option.map_eq_some_iff.mp ht
        exact .inr (.inl (failed_record (congrArg some h.connection)))
      | faulted | hungUp =>
        obtain ⟨-, hs⟩ := Option.ite_none_right_eq_some.mp ht
        obtain rfl := Option.some.inj hs
        exact .inr (.inl (failed_record (congrArg some h.connection)))
      | resume i | opened | refused | closed =>
        have hbusy := h.busy
        grind [Leaves, Phase.awaits?]
      | _ => exact hl.elim
  · have hphase := (advances_turn ht).phase hl
    exact .inl ⟨hconnections, hphase ▸ h.busy⟩

/-- While shutdown has not been called only its failure takes a connection out of use. -/
theorem InUse.turn_of_uncancelled (h : InUse c s) (tracked : s.Tracked) (hc : s.cancelled = false)
    (ht : s.turn? t = some s') : InUse c s' ∨ Failed c s' := by
  rcases h.turn tracked ht with hin | hfailed | ⟨hp, -⟩
  · exact .inl hin
  · exact .inr hfailed
  · obtain ⟨q, -, hs⟩ := tracked
    have fits := hs.fits
    rw [hp] at fits
    exact nomatch hc.symm.trans fits.2

/-- A line that has been accepted on a connection. -/
def Owes (c : Nat) (x : Ticket) (s : State) : Prop :=
  Failed c s ∨ x ∈ ticketsOn c s.history ∨ InUse c s ∧ x ∈ queuedFor c s.history

/-- A line that waits on a connection in use has been accepted on it. -/
theorem InUse.owes (h : InUse c s) (tracked : s.Tracked) (hx : x ∈ s.queue) : Owes c x s := by
  refine .inr (.inr ⟨h, ?_⟩)
  rw [← h.connection, tracked.queuedFor_of_awaits h.busy]
  exact List.mem_append_right _ (List.mem_append_right _ hx)

theorem Owes.turn (h : Owes c x s) (tracked : s.Tracked) (ht : s.turn? t = some s') :
    Owes c x s' := by
  have hsuffix := (advances_turn ht).adds.suffix
  rcases h with hfailed | hsent | ⟨hin, hqueued⟩
  · exact .inl (hfailed.turn ht)
  · exact .inr (.inl ((ticketsOn_isPrefix hsuffix).mem hsent))
  · rcases hin.turn tracked ht with hin' | hfailed | ⟨hp, hqueue, hh⟩
    · exact .inr (.inr ⟨hin', (queuedFor_isPrefix hsuffix).mem hqueued⟩)
    · exact .inl hfailed
    · -- nothing waits any more, so the line has been handed over
      rw [← hin.connection, tracked.queuedFor_of_awaits hin.busy, hqueue, hp] at hqueued
      refine .inr (.inl ?_)
      rw [hh, ← hin.connection]
      simpa [Phase.inHand] using hqueued

/-- A session that is over owes nothing. -/
theorem Owes.sent (h : Owes c x s) (hp : s.phase.IsOver) (hs : isSend x.line = true) :
    x.line ∈ sends s.history ∨ Failed c s := by
  rcases h with hfailed | hsent | ⟨hin, -⟩
  · exact .inr hfailed
  · exact (mem_sends_of_mem_ticketsOn hsent hs).imp_right .inl
  · have hbusy := hin.busy
    rcases hp with hp | hp <;> simp [hp, Phase.awaits?] at hbusy

end State
end AlarmKeypad.Session
