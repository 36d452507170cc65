import AlarmKeypad.Proofs.Session.Caller

namespace AlarmKeypad.Session

namespace Phase

/-- How many moves a session that has been told to stop is away from its end, at most, with nothing
in its queue. -/
def remaining : Phase → Nat
  | draining => 9
  | announcing => 8
  | greeting | sending .. | pinging _ => 7
  | live _ | flushSending _ => 6
  | flushing => 5
  | starting | ended _ => 4
  | dialing | opening | closing _ => 3
  | leaving => 2
  | parted | resting _ => 1
  | idle | finished | crashed => 0

theorem remaining_le (p : Phase) : p.remaining ≤ 9 := by
  cases p <;> simp [remaining]

/-- The move that leads a session on that has been told to stop. -/
def onward : Phase → Move
  | greeting | sending .. | pinging _ | flushSending _ => .handed
  | closing _ => .closed
  | _ => .act

theorem onward_cases (p : Phase) : p.onward = .act ∨ p.onward = .handed ∨ p.onward = .closed := by
  cases p <;> simp [onward]

end Phase

namespace State

variable {s s' : State} {t : Turn}

/-- Nothing waits if nothing has been queued. -/
theorem Quiet.queue_eq_nil (quiet : s.Quiet []) (tracked : s.Tracked) : s.queue = [] := by
  obtain ⟨q, ht, hs⟩ := tracked
  have hqueued := ht.queued_eq
  rw [quiet.queued, ← hs.waiting] at hqueued
  exact (List.append_eq_nil_iff.mp (List.append_eq_nil_iff.mp hqueued.symm).2).2

/-- A turn that may lead to another phase brings the end nearer. -/
theorem remaining_lt_of_leaves (hc : s.cancelled = true) (hq : s.queue = [])
    (hp : s.phase ≠ .idle) (hl : s.Leaves t) (ht : s.turn? t = some s') :
    s'.phase.remaining < s.phase.remaining := by
  unfold Leaves at hl
  split at hl
  case h_1 =>
    change s.act? = some s' at ht
    unfold act? at ht
    split at ht <;> grind [record, goTo, drop, publish, Phase.remaining]
  case h_2 => exact absurd hl hp
  case h_3 | h_4 => exact absurd hl.2 (by simp [hc])
  case h_5 =>
    obtain ⟨source, line, hpending, rfl⟩ := of_handed? ht
    unfold pending? at hpending
    split at hpending <;>
      grind [afterHanding, setHeartbeat, record, goTo, drop, Phase.remaining]
  case h_6 =>
    obtain ⟨⟨source, line⟩, hpending, rfl⟩ := Option.map_eq_some_iff.mp ht
    unfold pending? at hpending
    split at hpending <;> grind [goTo, Phase.remaining]
  case h_7 | h_8 => exact absurd hc hl.2
  case h_9 =>
    obtain ⟨⟨d, hd⟩, rfl⟩ := of_closed? ht
    simp [hd, goTo, Phase.remaining]
  case h_10 => exact hl.elim

/-- Every turn brings the end nearer or leaves the session where it is, and the move that leads on
brings it nearer. -/
theorem remaining_turn (hc : s.cancelled = true) (hq : s.queue = []) (hp : s.phase ≠ .idle)
    (ht : s.turn? t = some s') : s'.phase.remaining < s.phase.remaining ∨
      s'.phase = s.phase ∧ t ≠ .move s.phase.onward := by
  by_cases hl : s.Leaves t
  · exact .inl (remaining_lt_of_leaves hc hq hp hl ht)
  · refine .inr ⟨(advances_turn ht).phase hl, ?_⟩
    rintro rfl
    cases hphase : s.phase <;>
      grind [Leaves, Phase.onward, turn?, move?, closed?, handed?, pending?]

/-- Before the end the move that leads on is possible. -/
theorem isSome_onward (hc : s.cancelled = true) (hq : s.queue = []) (hp : s.phase ≠ .idle)
    (hover : ¬s.phase.IsOver) : (s.move? s.phase.onward).isSome = true := by
  obtain ⟨settings, now, phase, cancelled, joinable, published, mode, tracker, snapshot, queue,
    calls, callCount, attempts, connections, history⟩ := s
  obtain rfl : cancelled = true := hc
  obtain rfl : queue = [] := hq
  cases phase with
  | idle => exact absurd rfl hp
  | finished => exact absurd (.inl rfl) hover
  | crashed => exact absurd (.inr rfl) hover
  | ended e => cases e <;> rfl
  | _ => rfl

end State
end AlarmKeypad.Session
