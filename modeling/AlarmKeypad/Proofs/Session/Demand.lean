import AlarmKeypad.Proofs.Session.Advance
import AlarmKeypad.Proofs.Session.Delivery
import AlarmKeypad.Proofs.Session.Wire
import AlarmKeypad.Session.Notice
import Mathlib.Data.List.Perm.Subperm

namespace AlarmKeypad.Session

/-- The call that asks for a line. -/
def Event.asks? (k : KeypadSettings) (line : String) : Event → Option Nat
  | .called id r => if r.line? k = some line then some id else none
  | _ => none

/-- The calls that ask for a line, the first in front. -/
def asksFor (k : KeypadSettings) (line : String) (h : List Stamped) : List Nat :=
  collect (Event.asks? k line) h

def timesHanded (line : String) (h : List Stamped) : Nat :=
  (collect Event.handover? h).countP (·.line = line)

variable {k : KeypadSettings} {line : String} {h : List Stamped} {q : Track}

/-- A line that no session sends by itself is one of the queue. -/
theorem Track.Hands.source_eq {p p' : Track} {t : Nat} {source : Source} {l : String}
    (hh : p.Hands k t source l p') (hsync : l ≠ k.syncLine) (hping : l ≠ k.pingLine) :
    ∃ id, source = .call id := by
  cases hh with
  | greeting => exact absurd rfl hsync
  | heartbeat => exact absurd rfl hping
  | ticket => exact ⟨_, rfl⟩

theorem Tracks.timesHanded_eq (ht : Tracks k h q) (hsync : line ≠ k.syncLine)
    (hping : line ≠ k.pingLine) :
    timesHanded line h = (collect Event.sent? h).countP (·.line = line) := by
  unfold timesHanded
  induction ht with
  | start => rfl
  | @next h q e q' _ hn ih =>
    rw [collect_cons, collect_cons, List.countP_append, List.countP_append, ih]
    congr 1
    cases ho : e.event.handover? with
    | none => simp [Event.sent?, ho]
    | some o =>
      obtain ⟨-, p, hh⟩ := hn.hands ho
      by_cases hline : o.line = line
      · subst hline
        obtain ⟨id, hs⟩ := hh.source_eq hsync hping
        simp [Handover.sent ho hs]
      · cases hs : o.source <;> simp [Event.sent?, ho, Handover.ticket?, hs, hline]

/-- Every line of the queue that is handed over was asked for by its call. -/
theorem Tracks.mem_asksFor (ht : Tracks k h q) {calls : List (Nat × Call)} {n : Nat}
    (a : Accounts k calls n h) {x : Ticket} (hx : x ∈ collect Event.sent? h) :
    x.call ∈ asksFor k x.line h := by
  obtain ⟨e, past, he, hsent⟩ := exists_suffix_of_mem_collect hx
  obtain ⟨o, ho, hticket⟩ := Option.bind_eq_some_iff.mp hsent
  obtain ⟨c, source, l⟩ := o
  cases source with
  | call id =>
    obtain rfl := Option.some.inj hticket
    obtain ⟨t, r, older, hcalled, hline, -⟩ := ht.checked_of_handover a he ho rfl
    have hmem := hcalled.trans ((List.suffix_cons e past).trans he)
    exact mem_collect.mpr ⟨_, hmem.mem List.mem_cons_self, if_pos hline⟩
  | _ => exact nomatch hticket

/-- A line that no session sends by itself is handed over at most as often as it is asked for. -/
theorem timesHanded_le (ht : Tracks k h q) {calls : List (Nat × Call)} {n : Nat}
    (a : Accounts k calls n h) (hsync : line ≠ k.syncLine) (hping : line ≠ k.pingLine) :
    timesHanded line h ≤ (asksFor k line h).length := by
  -- the calls whose lines were handed over are different ones, and each of them asked for its line
  let sent := (collect Event.sent? h).filter (·.line = line)
  have hnodup : (sent.map Ticket.call).Nodup :=
    a.once.sublist ((List.filter_sublist.trans ht.sent_sublist).map Ticket.call)
  have hasked : sent.map Ticket.call ⊆ asksFor k line h := by
    intro id hid
    obtain ⟨x, hx, rfl⟩ := List.mem_map.mp hid
    obtain ⟨hsent, hline⟩ := List.mem_filter.mp hx
    exact of_decide_eq_true hline ▸ ht.mem_asksFor a hsent
  calc timesHanded line h = (sent.map Ticket.call).length := by
        rw [ht.timesHanded_eq hsync hping, List.countP_eq_length_filter, List.length_map]
    _ ≤ (asksFor k line h).length := (hnodup.subperm hasked).length_le

namespace State

variable {s : State} {id : Nat}

theorem asksFor_returned (i : Nat) (r : Reply) :
    asksFor k line (s.returned i r).history = asksFor k line s.history :=
  List.append_nil _

theorem asksFor_offer (i : Nat) (l : String) :
    asksFor k line (s.offer i l).history = asksFor k line s.history := by
  unfold offer
  split
  · rfl
  · exact asksFor_returned _ _

/-- A call asks for its line once. -/
theorem asksFor_call (r : Request) : asksFor k line (s.call r).history =
    asksFor k line s.history ++ if r.line? k = some line then [s.callCount] else [] := by
  have hbegun : asksFor k line (s.begun r).history =
      asksFor k line s.history ++ if r.line? k = some line then [s.callCount] else [] := by
    rw [begun, record, asksFor, collect_cons, Event.asks?]
    split <;> rfl
  rw [← hbegun]
  cases r with
  | connect =>
    rw [call_connect]
    split
    · exact asksFor_returned _ _
    · rfl
  | shutdown => rfl
  | command token =>
    rw [call_command]
    split
    · exact asksFor_returned _ _
    · exact asksFor_offer _ _
  | sync => exact asksFor_offer _ _

/-- Nothing but a call asks for a line. -/
theorem asksFor_turn {t : Turn} (ht : ∀ r, t ≠ .move (.call r)) :
    asksFor k line (s.turn t).history = asksFor k line s.history := by
  cases hs : s.turn? t with
  | none => rw [turn_eq_self hs]
  | some s' =>
    rw [turn_eq hs]
    refine (advances_turn hs).adds.collect_eq fun e he => ?_
    cases e with
    | called i r =>
      obtain ⟨r, hr⟩ := he
      exact absurd hr (ht r)
    | _ => rfl

theorem Settled.own_turn (hs : s.Settled id) (hid : id < s.callCount) (t : Turn) :
    (s.turn t).own id = s.own id := by
  by_cases ht : t = .move (.resume id)
  · rw [turn_eq_self (ht ▸ hs.resume)]
  · exact State.own_turn hid ht

/-- A call that is over does nothing more. -/
theorem Settled.own_run (hs : s.Settled id) (hid : id < s.callCount) (ts : List Turn) :
    (s.run ts).own id = s.own id := by
  induction ts generalizing s with
  | nil => rfl
  | cons t ts ih =>
    exact (ih (hs.turn hid t).1 (Nat.lt_of_lt_of_le hid (callCount_le_turn s t))).trans
      (hs.own_turn hid t)

/-- What a call has been told is a matter of its own steps. -/
theorem replyOf_own (id : Nat) (s : State) : replyOf id (s.own id).2 = replyOf id s.history := by
  unfold replyOf own
  dsimp only
  induction s.history with
  | nil => rfl
  | cons e h ih =>
    by_cases hact : e.event.isActOf id = true
    · rw [List.filter_cons_of_pos (by exact hact), List.findSome?_cons, List.findSome?_cons, ih]
    · rw [List.filter_cons_of_neg (by exact hact), List.findSome?_cons, ih]
      cases hev : e.event <;> simp_all [Event.isActOf]

end State
end AlarmKeypad.Session
