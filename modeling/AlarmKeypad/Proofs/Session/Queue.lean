import AlarmKeypad.Proofs.Session.Calls

namespace AlarmKeypad.Session

def Handover.ticket? (o : Handover) : Option Ticket :=
  match o.source with
  | .call id => some ⟨id, o.line⟩
  | _ => none

def Event.sent? (e : Event) : Option Ticket := e.handover?.bind Handover.ticket?

def ticketsOn (c : Nat) (h : List Stamped) : List Ticket :=
  (handoversOn c h).filterMap Handover.ticket?

/-- The lines that are queued after a connection has been drained and before the next is opened. -/
def queuedFor (c : Nat) : List Stamped → List Ticket
  | [] => []
  | e :: h =>
    queuedFor c h ++
      if Has h (.drained c) ∧ ¬Has h (.opened (c + 1)) then e.event.queued?.toList else []

variable {k : KeypadSettings} {h : List Stamped} {q : Track} {c : Nat}

theorem queuedFor_cons_of_not_queued {e : Stamped} (he : e.event.queued? = none) :
    queuedFor c (e :: h) = queuedFor c h := by
  simp [queuedFor, he]

theorem queuedFor_eq_nil (hd : ¬Has h (.drained c)) : queuedFor c h = [] := by
  induction h with
  | nil => rfl
  | cons e h ih =>
    have hpast : ¬Has h (.drained c) := fun hh => hd (has_cons.mpr (.inr hh))
    rw [queuedFor, ih hpast, if_neg fun hh => hpast hh.1]
    rfl

theorem ticketsOn_cons_of_no_handover {e : Stamped} (he : e.event.handover? = none) :
    ticketsOn c (e :: h) = ticketsOn c h := by
  simp [ticketsOn, handoversOn, he]

theorem ticketsOn_cons_of_handover {e : Stamped} {o : Handover} (he : e.event.handover? = some o) :
    ticketsOn c (e :: h) =
      ticketsOn c h ++ if o.connection = c then o.ticket?.toList else [] := by
  by_cases hc : o.connection = c
  · subst hc
    rw [ticketsOn, handoversOn_cons_of_handover he, List.filterMap_append, if_pos rfl]
    cases ho : o.ticket? <;> simp [ticketsOn, ho]
  · simp [ticketsOn, handoversOn, he, Option.filter, hc]

/-- What gives less gives a part of it. -/
theorem collect_sublist {α : Type} {f g : Event → Option α}
    (hfg : ∀ e x, f e = some x → g e = some x) (h : List Stamped) :
    (collect f h).Sublist (collect g h) := by
  induction h with
  | nil => exact .slnil
  | cons e h ih =>
    refine ih.append ?_
    cases hf : f e.event with
    | none => exact List.nil_sublist _
    | some x => exact hfg _ _ hf ▸ List.Sublist.refl _

namespace Tracks

theorem has_opened_iff (ht : Tracks k h q) :
    Has h (.opened c) ↔ 1 ≤ c ∧ c ≤ q.connection := by
  have hmem : Has h (.opened c) ↔ c ∈ collect Event.opened? h := by
    rw [mem_collect]
    constructor
    · intro hh
      obtain ⟨e, he, heq⟩ := List.mem_map.mp hh
      exact ⟨e, he, by rw [heq]; rfl⟩
    · rintro ⟨e, he, ho⟩
      refine List.mem_map.mpr ⟨e, he, ?_⟩
      cases hev : e.event <;> simp_all [Event.opened?]
  rw [hmem, ht.opened, List.mem_range'_1]
  omega

/-- Every connection but the last has been drained, and the last once it is past that stage. -/
theorem has_drained_iff (ht : Tracks k h q) : Has h (.drained c) ↔
    1 ≤ c ∧ (c < q.connection ∨ c = q.connection ∧ q.stage ≠ .draining) := by
  induction ht with
  | start =>
    simp only [Has, Track.start]
    grind
  | next hp hn ih =>
    rw [has_cons, ih]
    cases hn with
    | drain n b t =>
      have hpos : 1 ≤ n := hp.connection_pos rfl
      grind
    | hand hh => cases hh <;> simp
    | fail hh => cases hh <;> simp
    | _ => grind

end Tracks

/-- What goes over a connection was queued for it, in order and from the first line on; what is
still to go has been queued for the last connection. -/
structure Windows (h : List Stamped) (q : Track) : Prop where
  all : ∀ c, ticketsOn c h <+: queuedFor c h
  last : 1 ≤ q.connection → q.stage ≠ .draining →
    queuedFor q.connection h = ticketsOn q.connection h ++ q.waiting

theorem Windows.aside (w : Windows h q) {e : Stamped} {g : Stage} {b : Bool}
    (ho : e.event.handover? = none) (hq : e.event.queued? = none)
    (hg : g ≠ .draining → q.stage ≠ .draining) :
    Windows (e :: h) ⟨g, q.connection, q.waiting, b⟩ where
  all c := by
    rw [ticketsOn_cons_of_no_handover ho, queuedFor_cons_of_not_queued hq]
    exact w.all c
  last hpos hs := by
    rw [ticketsOn_cons_of_no_handover ho, queuedFor_cons_of_not_queued hq]
    exact w.last hpos (hg hs)

/-- A line is handed over, whether or not it goes over. -/
theorem Windows.hands (w : Windows h q) (hpos : 1 ≤ q.connection) {q' : Track} {e : Stamped}
    {t : Nat} {source : Source} {line : String} (hh : q.Hands k t source line q')
    (he : e.event.handover? = some ⟨q.connection, source, line⟩) {g : Stage} :
    Windows (e :: h) { q' with stage := g } := by
  have hq : e.event.queued? = none := by
    cases hev : e.event <;> simp_all [Event.handover?, Event.queued?]
  have hsent : q.waiting = (Handover.mk q.connection source line).ticket?.toList ++ q'.waiting := by
    cases hh <;> rfl
  have hc : q'.connection = q.connection := by
    cases hh <;> rfl
  have hlast : queuedFor q.connection h = ticketsOn q.connection h ++ q.waiting :=
    w.last hpos (by cases hh <;> simp)
  constructor
  · intro c
    rw [ticketsOn_cons_of_handover he, queuedFor_cons_of_not_queued hq]
    by_cases heq : q.connection = c
    · subst heq
      rw [if_pos rfl, hlast, hsent, ← List.append_assoc]
      exact List.prefix_append _ _
    · rw [if_neg heq, List.append_nil]
      exact w.all c
  · intro _ _
    change queuedFor q'.connection (e :: h) = ticketsOn q'.connection (e :: h) ++ q'.waiting
    rw [hc, ticketsOn_cons_of_handover he, queuedFor_cons_of_not_queued hq, if_pos rfl, hlast,
      hsent, List.append_assoc]

theorem Tracks.windows (ht : Tracks k h q) : Windows h q := by
  induction ht with
  | start => exact ⟨fun c => List.prefix_refl [], fun hpos => absurd hpos (by simp [Track.start])⟩
  | @next h q _ _ hp hn ih =>
    cases hn with
    | queued g n w b t x =>
      refine ⟨fun c => ?_, fun hpos hg => ?_⟩
      · rw [ticketsOn_cons_of_no_handover rfl]
        exact (ih.all c).trans (List.prefix_append _ _)
      · -- the last connection has been drained, so the line is queued for it
        have hd : Has h (.drained n) := hp.has_drained_iff.mpr ⟨hpos, .inr ⟨rfl, hg⟩⟩
        have ho : ¬Has h (.opened (n + 1)) := fun ho =>
          Nat.not_succ_le_self n (hp.has_opened_iff.mp ho).2
        rw [ticketsOn_cons_of_no_handover rfl, queuedFor, if_pos ⟨hd, ho⟩, ih.last hpos hg,
          List.append_assoc]
        rfl
    | drain n b t =>
      -- the lines from before have been dropped: nothing is queued for this connection yet
      have hd : ¬Has h (.drained n) := fun hd =>
        (hp.has_drained_iff.mp hd).2.elim (Nat.lt_irrefl n) fun hh => hh.2 rfl
      have hqueued := queuedFor_eq_nil hd
      have hsent : ticketsOn n h = [] := List.prefix_nil.mp (hqueued ▸ ih.all n)
      refine ⟨fun c => ?_, fun _ _ => ?_⟩
      all_goals rw [ticketsOn_cons_of_no_handover rfl, queuedFor_cons_of_not_queued rfl]
      · exact ih.all c
      · rw [hqueued, hsent]
        rfl
    | opens n w b t =>
      refine ⟨fun c => ?_, fun _ hg => absurd rfl hg⟩
      rw [ticketsOn_cons_of_no_handover rfl, queuedFor_cons_of_not_queued rfl]
      exact ih.all c
    | discard n x w b t =>
      refine ⟨fun c => ?_, fun _ hg => absurd rfl hg⟩
      rw [ticketsOn_cons_of_no_handover rfl, queuedFor_cons_of_not_queued rfl]
      exact ih.all c
    | hand hh =>
      exact ih.hands (hp.connection_pos (by cases hh <;> rfl)) hh rfl
    | fail hh =>
      exact ih.hands (hp.connection_pos (by cases hh <;> rfl)) hh rfl
    | called g n w b t i r => exact ih.aside rfl rfl id
    | returned q t i r => exact ih.aside rfl rfl id
    | spawned q t => exact ih.aside rfl rfl id
    | _ => exact ih.aside rfl rfl (fun _ => by simp)

/-- What is still to go is what the session holds, unless it drops lines for an earlier connection. -/
theorem State.Tracked.queuedFor_eq {s : State} (h : s.Tracked) (hpos : 1 ≤ s.connections)
    (hp : s.phase ≠ .draining) : queuedFor s.connections s.history =
      ticketsOn s.connections s.history ++ (s.phase.inHand ++ s.queue) := by
  obtain ⟨⟨g, n, w, b⟩, ht, fits, -, rfl, rfl, -⟩ := h
  refine ht.windows.last hpos ?_
  rintro rfl
  cases hphase : s.phase with
  | draining => exact hp hphase
  | ended e => cases e <;> grind [Phase.Fits]
  | _ => grind [Phase.Fits]

theorem Event.taken_of_sent {e : Event} {x : Ticket} (h : e.sent? = some x) :
    e.taken? = some x := by
  cases e with
  | handed c source line | handFailed c source line =>
    cases source with
    | call id => exact h
    | _ => exact nomatch h
  | _ => exact nomatch h

/-- Over the whole life of a keypad its lines are handed over in the order of the queue. -/
theorem Tracks.sent_sublist (ht : Tracks k h q) :
    (collect Event.sent? h).Sublist (collect Event.queued? h) := by
  rw [ht.queued_eq]
  exact (collect_sublist (fun _ _ => Event.taken_of_sent) h).trans (List.sublist_append_left _ _)

theorem Handover.sent {e : Event} {o : Handover} {id : Nat} (ho : e.handover? = some o)
    (hs : o.source = .call id) : e.sent? = some ⟨id, o.line⟩ := by
  simp [Event.sent?, ho, ticket?, hs]

/-- A line of the queue that is handed over is the one its call was made for. -/
theorem Tracks.checked_of_handover (ht : Tracks k h q) {calls : List (Nat × Call)} {n : Nat}
    (a : Accounts k calls n h) {e : Stamped} {past : List Stamped} (he : e :: past <:+ h)
    {o : Handover} (ho : e.event.handover? = some o) {id : Nat} (hs : o.source = .call id) :
    Checked k past ⟨id, o.line⟩ := by
  obtain ⟨p, hp⟩ := ht.of_suffix he
  have hsent : ⟨id, o.line⟩ ∈ collect Event.sent? (e :: past) :=
    mem_collect.mpr ⟨e, List.mem_cons_self, Handover.sent ho hs⟩
  obtain ⟨⟨t, f⟩, older, hf, hq⟩ := exists_suffix_of_mem_collect (hp.sent_sublist.subset hsent)
  obtain rfl : f = .queued ⟨id, o.line⟩ := Event.eq_of_queued hq
  rcases List.suffix_cons_iff.mp hf with heq | hf'
  · obtain ⟨rfl, -⟩ := List.cons.inj heq
    exact nomatch ho
  · exact (a.checked t _ older (hf.trans he)).mono ((List.suffix_cons _ _).trans hf')

end AlarmKeypad.Session
