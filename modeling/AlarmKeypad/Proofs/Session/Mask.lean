import AlarmKeypad.Proofs.Session.Modes
/-!
# Leaving out what a device has said

No step of a session looks at the lines that have come or at what is said of the mode. A mask leaves
some of both out of a state, and every turn goes on as if nothing were missing.
-/

namespace AlarmKeypad.Session

/-- What is kept of the words of a device. -/
structure Mask where
  /-- Whether a line is kept among those that have come. -/
  keeps : String → Bool
  /-- Whether the mode is kept, with its changes and the last snapshot. -/
  tells : Bool

namespace Mask

def shows (v : Mask) : Event → Bool
  | .received _ line => v.keeps line
  | .modeChanged _ => v.tells
  | _ => true

end Mask

namespace State

def under (v : Mask) (s : State) : State :=
  { s with
    mode := if v.tells then s.mode else .unknown
    tracker := if v.tells then s.tracker else .unknown
    snapshot := if v.tells then s.snapshot else none
    history := s.history.filter fun e => v.shows e.event }

variable {s : State} {v : Mask}

theorem under_record_hidden {e : Event} (he : v.shows e = false) :
    (s.record e).under v = s.under v := by
  simp [under, record, he]

/-- A condition that does not look at what has happened. -/
theorem ite_under {P : Prop} [Decidable P] {u u' w w' : State} (hu : u' = u.under v)
    (hw : w' = w.under v) : (if P then u' else w') = (if P then u else w).under v := by
  split
  · exact hu
  · exact hw

theorem ite_map_under {P : Prop} [Decidable P] {u u' w w' : Option State}
    (hu : u' = u.map (under v)) (hw : w' = w.map (under v)) :
    (if P then u' else w') = (if P then u else w).map (under v) := by
  split
  · exact hu
  · exact hw

/-- The session's own steps do not depend on what the device has said. -/
theorem act?_under : (s.under v).act? = s.act?.map (under v) := by
  obtain ⟨k, now, phase, cancelled, joinable, published, mode, tracker, snapshot, queue, calls,
    callCount, attempts, connections, history⟩ := s
  -- no phase looks at the history: where `act?` decides, the state decides alike
  cases phase with
  | starting | announcing | leaving => cases published <;> rfl
  | dialing | opening | parted => cases cancelled <;> rfl
  | draining | flushing => cases queue <;> rfl
  | live d =>
    cases cancelled with
    | true => rfl
    | false =>
      cases queue with
      | cons x r => rfl
      | nil => exact ite_map_under (P := d ≤ now) rfl rfl
  | ended e =>
    cases e with
    | hungUp => rfl
    | failed | shutdown => cases published <;> rfl
  | closing d => exact ite_map_under (P := d ≤ now) rfl rfl
  | resting d =>
    cases cancelled with
    | true => rfl
    | false => exact ite_map_under (P := d ≤ now) rfl rfl
  | _ => rfl

theorem offer_under (id : Nat) (line : String) :
    (s.under v).offer id line = (s.offer id line).under v :=
  ite_under (P := s.published = .connected) rfl rfl

theorem call_under (r : Request) : (s.under v).call r = (s.call r).under v := by
  have hoffer (line : String) := offer_under (v := v) (s :=
    { s with callCount := s.callCount + 1 }.record (.called s.callCount r)) s.callCount line
  cases r with
  | connect => exact ite_under (P := s.cancelled = true) rfl rfl
  | shutdown => rfl
  | command token => exact ite_under (P := token = "") rfl (hoffer _)
  | sync => exact hoffer _

theorem resume?_under (id : Nat) : (s.under v).resume? id = (s.resume? id).map (under v) := by
  have hcalls : (s.under v).calls = s.calls := rfl
  unfold resume?
  rw [hcalls]
  cases s.calls.lookup id with
  | none => rfl
  | some c =>
    cases c with
    | connecting =>
      exact ite_map_under (P := s.joinable = true) rfl
        (ite_map_under (P := s.phase = .idle) rfl rfl)
    | stopping => exact ite_map_under (P := s.joinable = true) rfl rfl
    | joining => exact ite_map_under (P := s.phase.IsOver) rfl rfl
    | queueing line =>
      exact ite_map_under (P := s.phase.IsOver) rfl
        (ite_map_under (P := s.queue.length < queueSize) rfl rfl)

theorem afterHanding_under : (s.under v).afterHanding = s.afterHanding.under v := by
  obtain ⟨k, now, phase, cancelled, joinable, published, mode, tracker, snapshot, queue, calls,
    callCount, attempts, connections, history⟩ := s
  cases phase with
  | greeting => exact ite_under (P := k.HasHeartbeat now) rfl rfl
  | _ => rfl

theorem handed?_under : (s.under v).handed? = s.handed?.map (under v) := by
  have hpending : (s.under v).pending? = s.pending? := rfl
  unfold handed?
  rw [hpending]
  cases s.pending? with
  | none => rfl
  | some p =>
    let handed := s.record (.handed s.connections p.1 p.2)
    exact congrArg some (afterHanding_under (s := handed))

theorem handFailed?_under : (s.under v).handFailed? = s.handFailed?.map (under v) := by
  have hpending : (s.under v).pending? = s.pending? := rfl
  unfold handFailed?
  rw [hpending]
  cases s.pending? <;> rfl

theorem closed?_under : (s.under v).closed? = s.closed?.map (under v) := by
  obtain ⟨k, now, phase, cancelled, joinable, published, mode, tracker, snapshot, queue, calls,
    callCount, attempts, connections, history⟩ := s
  cases phase <;> rfl

theorem elapse?_under (ms : Nat) : (s.under v).elapse? ms = (s.elapse? ms).map (under v) := by
  have hact : (s.under v).act? = none ↔ s.act? = none := by
    rw [act?_under, Option.map_eq_none_iff]
  unfold elapse?
  simp only [hact]
  exact ite_map_under (P := s.act? = none ∧ ∀ d ∈ s.timer?, s.now + ms ≤ d) rfl rfl

/-- Every move but a line from the device goes alike under a mask. -/
theorem move?_under {m : Move} (hm : ∀ line, m ≠ .received line) :
    (s.under v).move? m = (s.move? m).map (under v) := by
  cases m with
  | elapse ms => exact elapse?_under ms
  | call r => exact congrArg some (call_under r)
  | resume id => exact resume?_under id
  | act => exact act?_under
  | opened => exact ite_map_under (P := s.phase = .opening ∧ ¬s.cancelled = true) rfl rfl
  | refused => exact ite_map_under (P := s.phase = .opening ∧ ¬s.cancelled = true) rfl rfl
  | handed => exact handed?_under
  | handFailed => exact handFailed?_under
  | received line => exact absurd rfl (hm line)
  | faulted => exact ite_map_under (P := s.Listens) rfl rfl
  | hungUp => exact ite_map_under (P := s.Listens) rfl rfl
  | closed => exact closed?_under

theorem turn_under {t : Turn} (ht : ∀ line, t ≠ .move (.received line)) :
    (s.under v).turn t = (s.turn t).under v := by
  cases t with
  | late ms => rfl
  | move m =>
    rw [turn, turn, turn?, turn?, move?_under fun line hm => ht line (congrArg _ hm)]
    cases s.move? m <;> rfl

end State
end AlarmKeypad.Session
