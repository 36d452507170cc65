import AlarmKeypad.Proofs.Session.Advance
import AlarmKeypad.Proofs.Session.Delivery
import AlarmKeypad.Proofs.Session.Lifecycle

namespace AlarmKeypad.Session

def Event.isDial : Event → Bool
  | .attempted _ | .opened _ | .refused => true
  | _ => false

def dials (h : List Stamped) : List Event := collect (fun e => if e.isDial then some e else none) h

def spawnings (h : List Stamped) : Nat := h.countP (·.event = .spawned)

/-- How many steps a session without a connection takes to its end when it has been told to stop. -/
def Phase.retreat? : Phase → Option Nat
  | .starting => some 4
  | .dialing | .opening => some 3
  | .leaving => some 2
  | .parted | .resting _ => some 1
  | .finished => some 0
  | _ => none

namespace State

variable {s s' : State}

/-- The session is spawned when it leaves the phase before its start. -/
def SpawnsOnce (s : State) : Prop := spawnings s.history = if s.phase = .idle then 0 else 1

theorem spawnings_of_adds {h h' : List Stamped} (ha : Adds (· ≠ .spawned) h h') :
    spawnings h' = spawnings h :=
  ha.eq_of_cons fun e h he => by simp [spawnings, he]

theorem SpawnsOnce.turn (h : s.SpawnsOnce) {t : Turn} (ht : s.turn? t = some s') :
    s'.SpawnsOnce := by
  have ha := advances_turn ht
  by_cases hr : (∃ id, t = .move (.resume id)) ∧ s.phase = .idle
  · -- the call that starts the session, or one that leaves it where it is
    obtain ⟨⟨id, rfl⟩, hp⟩ := hr
    change s.resume? id = some s' at ht
    unfold resume? at ht
    split at ht <;> grind [SpawnsOnce, spawnings, record, returned, waiting]
  · have hsame : spawnings s'.history = spawnings s.history := by
      refine spawnings_of_adds (ha.adds.mono ?_)
      rintro _ he rfl
      exact hr he
    have hidle : s'.phase = .idle ↔ s.phase = .idle := by
      refine ⟨fun hp' => Classical.not_not.mp fun hp => ha.started hp hp', fun hp => ?_⟩
      exact (ha.phase fun hl => hr ⟨resume_of_leaves hp hl, hp⟩).trans hp
    rw [SpawnsOnce, hsame, h, if_congr hidle rfl rfl]

theorem SpawnsOnce.le (h : s.SpawnsOnce) : spawnings s.history ≤ 1 := by
  rw [h]
  split <;> decide

theorem dials_run (hc : s.cancelled = true) (us : List Turn) :
    dials (s.run us).history = dials s.history := by
  refine (run_induction (P := fun u => u.cancelled = true ∧ dials u.history = dials s.history)
    ?_ ⟨hc, rfl⟩ us).2
  intro u t u' ⟨hu, hd⟩ ht
  have ha := advances_turn ht
  refine ⟨ha.told hu, Eq.trans ?_ hd⟩
  refine ha.adds.collect_eq fun e he => ?_
  cases e with
  | attempted n => exact nomatch hu.symm.trans he.2
  | opened c => exact nomatch hu.symm.trans he.2
  | refused => exact nomatch hu.symm.trans he.2
  | _ => rfl

/-- Only a step of its own leads a session further that has been told to stop. -/
theorem phase_of_retreat (hc : s.cancelled = true) {n : Nat} (hr : s.phase.retreat? = some n)
    {t : Turn} (hne : t ≠ .move .act) (h : s.turn? t = some s') : s'.phase = s.phase := by
  refine (advances_turn h).phase fun hl => ?_
  unfold Leaves at hl
  split at hl
  · exact hne rfl
  all_goals grind [pending?, Listens, Phase.retreat?]

theorem retreat_act (hc : s.cancelled = true) {n : Nat} (hr : s.phase.retreat? = some n) :
    (s.turn (.move .act)).phase.retreat? = some (n - 1) := by
  obtain ⟨settings, now, phase, cancelled, joinable, published, mode, tracker, snapshot, queue,
    calls, callCount, attempts, connections, history⟩ := s
  obtain rfl : cancelled = true := hc
  cases phase with
  | starting | dialing | opening | leaving | parted | resting d | finished =>
    obtain rfl := Option.some.inj hr
    rfl
  | _ => exact nomatch hr

/-- Every step of its own brings the session nearer to its end, whatever else happens. -/
theorem retreat_run (hc : s.cancelled = true) {n : Nat} (hr : s.phase.retreat? = some n)
    (us : List Turn) : (s.run us).phase.retreat? = some (n - us.count (.move .act)) := by
  -- each step of its own counts one down, and no other turn changes the phase
  induction us generalizing s n with
  | nil => exact hr
  | cons t us ih =>
    have hc' : (s.turn t).cancelled = true := cancelled_run hc [t]
    by_cases hact : t = .move .act
    · subst hact
      rw [run_cons, ih hc' (retreat_act hc hr), List.count_cons_self, Nat.add_comm,
        Nat.sub_add_eq]
    · have hphase : (s.turn t).phase = s.phase := by
        cases ht : s.turn? t with
        | none => rw [turn_eq_self ht]
        | some s' =>
          rw [turn_eq ht]
          exact phase_of_retreat hc hr hact ht
      rw [run_cons, ih hc' (hphase ▸ hr), List.count_cons_of_ne hact]

end State

end AlarmKeypad.Session
