import AlarmKeypad.Proofs.Session.Queue
/-!
# Runs without a call

A call that puts no line into the queue leaves no trace: without its steps the run is the same, up
to the numbers of the calls after it.
-/

namespace AlarmKeypad.Session

/-- The number of a call when the call `id` is left out. -/
def renumber (id i : Nat) : Nat := if id < i then i - 1 else i

theorem renumber_inj {id i j : Nat} (hi : i ≠ id) (hj : j ≠ id) :
    renumber id i = renumber id j ↔ i = j := by
  unfold renumber
  split <;> split <;> omega

theorem renumber_of_lt {id i : Nat} (hi : i < id) : renumber id i = i := if_neg (Nat.lt_asymm hi)

def Ticket.without (id : Nat) (x : Ticket) : Ticket := ⟨renumber id x.call, x.line⟩

def Source.without (id : Nat) : Source → Source
  | .call i => .call (renumber id i)
  | .greeting => .greeting
  | .heartbeat => .heartbeat

def Phase.without (id : Nat) : Phase → Phase
  | .sending x d => .sending (x.without id) d
  | .flushSending x => .flushSending (x.without id)
  | p => p

def Event.without (id : Nat) : Event → Event
  | .called i r => .called (renumber id i) r
  | .returned i r => .returned (renumber id i) r
  | .queued x => .queued (x.without id)
  | .stale x => .stale (x.without id)
  | .handed c source line => .handed c (source.without id) line
  | .handFailed c source line => .handFailed c (source.without id) line
  | e => e

/-- Whether a call is made or returns. -/
def Event.isStepOf (id : Nat) : Event → Bool
  | .called i _ | .returned i _ => i = id
  | _ => false

/-- A state as it would be if a call had not been made. -/
def State.without (id : Nat) (s : State) : State :=
  { s with
    phase := s.phase.without id
    queue := s.queue.map (Ticket.without id)
    calls := (s.calls.filter (·.1 ≠ id)).map fun p => (renumber id p.1, p.2)
    callCount := s.callCount - 1
    history := (s.history.filter fun e => !e.event.isStepOf id).map fun e =>
      ⟨e.time, e.event.without id⟩ }

def Turn.without (id : Nat) : Turn → Option Turn
  | .move (.resume i) => if i = id then none else some (.move (.resume (renumber id i)))
  | t => some t

theorem Turn.without_eq_none {id : Nat} {t : Turn} : t.without id = none ↔ t = .move (.resume id) := by
  cases t with
  | late ms => simp [Turn.without]
  | move m => cases m <;> simp [Turn.without]

theorem Turn.ne_of_without {id : Nat} {t t' : Turn} (ht : t.without id = some t') :
    t ≠ .move (.resume id) := fun heq =>
  nomatch (Turn.without_eq_none.mpr heq).symm.trans ht

theorem Ticket.without_of_lt {id : Nat} {x : Ticket} (hx : x.call < id) : x.without id = x := by
  rw [Ticket.without, renumber_of_lt hx]

theorem Event.without_of_lt {id : Nat} {e : Event} (he : ∀ i ∈ e.call?, i < id) :
    e.without id = e := by
  cases e with
  | handed c source line | handFailed c source line =>
    cases source with
    | call i => rw [Event.without, Source.without, renumber_of_lt (he i rfl)]
    | _ => rfl
  | called i r | returned i r => rw [Event.without, renumber_of_lt (he i rfl)]
  | queued x | stale x => rw [Event.without, Ticket.without_of_lt (he x.call rfl)]
  | _ => rfl

namespace State

variable {s : State} {id i : Nat}

theorem without_record {e : Event} (he : e.isStepOf id = false) :
    (s.record e).without id = (s.without id).record (e.without id) := by
  simp [without, record, he]

theorem without_record_own {e : Event} (he : e.isStepOf id = true) :
    (s.record e).without id = s.without id := by
  simp [without, record, he]

/-- The session's own steps do not depend on the calls. -/
theorem act?_without : (s.without id).act? = s.act?.map (without id) := by
  obtain ⟨k, now, phase, cancelled, joinable, published, mode, tracker, snapshot, queue, calls,
    callCount, attempts, connections, history⟩ := s
  -- a step that waits for a time
  have due : ∀ (d : Nat) (u v : State), v = u.without id →
      (if d ≤ now then some v else none) = (if d ≤ now then some u else none).map (without id) := by
    intro d u v huv
    split
    · exact congrArg some huv
    · rfl
  cases phase with
  | starting | announcing | leaving => cases published <;> rfl
  | dialing | opening | parted => cases cancelled <;> rfl
  | draining | flushing => cases queue <;> rfl
  | live d =>
    cases cancelled with
    | true => rfl
    | false =>
      cases queue with
      | cons x r => rfl
      | nil => exact due d _ _ rfl
  | ended e =>
    cases e with
    | hungUp => rfl
    | failed | shutdown => cases published <;> rfl
  | closing d => exact due d _ _ rfl
  | resting d =>
    cases cancelled with
    | true => rfl
    | false => exact due d _ _ rfl
  | _ => rfl

theorem filter_without (calls : List (Nat × Call)) (hi : i ≠ id) :
    ((calls.filter (·.1 ≠ i)).filter (·.1 ≠ id)).map (fun p => (renumber id p.1, p.2)) =
      ((calls.filter (·.1 ≠ id)).map fun p => (renumber id p.1, p.2)).filter
        (·.1 ≠ renumber id i) := by
  rw [List.filter_map, List.filter_filter, List.filter_filter]
  congr 1
  refine List.filter_congr fun p _ => ?_
  by_cases hp : p.1 = id
  · simp [hp]
  · simp [hp, renumber_inj hp hi]

theorem without_returned (hi : i ≠ id) (r : Reply) :
    (s.returned i r).without id = (s.without id).returned (renumber id i) r := by
  unfold returned
  rw [without_record (by simpa [Event.isStepOf] using hi)]
  refine congrArg (record · _) ?_
  simp only [without, filter_without _ hi]

theorem without_waiting (hi : i ≠ id) (c : Call) :
    (s.waiting i c).without id = (s.without id).waiting (renumber id i) c := by
  simp only [waiting, without]
  rw [List.filter_cons_of_pos (by simpa using hi), List.map_cons, filter_without _ hi]

theorem lookup_without (hi : i ≠ id) :
    (s.without id).calls.lookup (renumber id i) = s.calls.lookup i := by
  unfold without
  dsimp only
  induction s.calls with
  | nil => rfl
  | cons p calls ih =>
    obtain ⟨j, c⟩ := p
    by_cases hj : j = id
    · have hne : (i == j) = false := beq_false_of_ne (hj ▸ hi)
      rw [List.filter_cons_of_neg (by simpa using hj), ih, List.lookup_cons, hne]
    · have heq : (renumber id i == renumber id j) = (i == j) := by
        rw [Bool.eq_iff_iff, beq_iff_eq, beq_iff_eq, renumber_inj hi hj]
      rw [List.filter_cons_of_pos (by simpa using hj), List.map_cons, List.lookup_cons,
        List.lookup_cons, ih, heq]

theorem without_offer (hi : i ≠ id) (line : String) :
    (s.offer i line).without id = (s.without id).offer (renumber id i) line := by
  by_cases hp : s.published = .connected
  · rw [offer, offer, if_pos hp, if_pos (show (s.without id).published = .connected from hp)]
    exact without_waiting hi _
  · rw [offer, offer, if_neg hp, if_neg (show ¬(s.without id).published = .connected from hp)]
    exact without_returned hi _

theorem without_begun (hid : id < s.callCount) (r : Request) :
    (s.begun r).without id = (s.without id).begun r := by
  have hn : renumber id s.callCount = s.callCount - 1 := if_pos hid
  have hcount : s.callCount + 1 - 1 = s.callCount - 1 + 1 := by omega
  unfold begun
  rw [without_record (by simpa [Event.isStepOf] using Nat.ne_of_gt hid), Event.without, hn]
  have hgrown : { s with callCount := s.callCount + 1 }.without id =
      { s.without id with callCount := s.callCount - 1 + 1 } := by
    simp only [without, hcount]
  rw [hgrown]
  rfl

/-- A call is the same without an earlier one. -/
theorem without_call (hid : id < s.callCount) (r : Request) :
    (s.call r).without id = (s.without id).call r := by
  have hne : s.callCount ≠ id := Nat.ne_of_gt hid
  have hn : renumber id s.callCount = (s.without id).callCount := if_pos hid
  cases r with
  | connect =>
    rw [call_connect, call_connect, ← without_begun hid, ← hn, ← without_returned hne,
      ← without_waiting hne]
    exact apply_ite (without id) _ _ _
  | shutdown =>
    rw [call_shutdown, call_shutdown, ← without_begun hid, ← hn]
    exact without_waiting hne _
  | command token =>
    rw [call_command, call_command, ← without_begun hid, ← hn, ← without_returned hne,
      ← without_offer hne]
    exact apply_ite (without id) _ _ _
  | sync =>
    rw [call_sync, call_sync, ← without_begun hid, ← hn]
    exact without_offer hne _

theorem phase_without_eq_iff {p : Phase} (hp : p.inHand = []) :
    (s.without id).phase = p ↔ s.phase = p := by
  change s.phase.without id = p ↔ s.phase = p
  cases s.phase with
  | sending x d => constructor <;> rintro rfl <;> exact nomatch hp
  | flushSending x => constructor <;> rintro rfl <;> exact nomatch hp
  | _ => rfl

theorem isOver_without : (s.without id).phase.IsOver ↔ s.phase.IsOver := by
  change (s.phase.without id).IsOver ↔ s.phase.IsOver
  cases s.phase <;> simp [Phase.without, Phase.IsOver]

theorem without_spawned (hi : i ≠ id) :
    (({ s with phase := .starting, joinable := true }.record .spawned).returned i .ok).without id =
      ({ s.without id with phase := .starting, joinable := true }.record .spawned).returned
        (renumber id i) .ok :=
  without_returned hi _

theorem without_enqueued (hi : i ≠ id) (line : String) :
    (({ s with queue := s.queue ++ [Ticket.mk i line] }.record (.queued ⟨i, line⟩)).returned i
        .ok).without id =
      ({ s.without id with queue := (s.without id).queue ++ [Ticket.mk (renumber id i) line] }.record
        (.queued ⟨renumber id i, line⟩)).returned (renumber id i) .ok := by
  rw [without_returned hi, without_record rfl]
  simp only [without, List.map_append]
  rfl

/-- The steps of a call are the same without another one. -/
theorem resume?_without (hi : i ≠ id) :
    (s.without id).resume? (renumber id i) = (s.resume? i).map (without id) := by
  unfold resume?
  rw [lookup_without hi]
  split
  · rfl
  · -- connecting: the session is there, or is started, or is over
    by_cases hj : s.joinable = true
    · rw [if_pos hj, if_pos (show (s.without id).joinable = true from hj)]
      exact congrArg some (without_returned hi _).symm
    · rw [if_neg hj, if_neg (show ¬(s.without id).joinable = true from hj)]
      by_cases hp : s.phase = .idle
      · rw [if_pos hp, if_pos ((phase_without_eq_iff rfl).mpr hp)]
        exact congrArg some (without_spawned hi).symm
      · rw [if_neg hp, if_neg ((not_congr (phase_without_eq_iff rfl)).mpr hp)]
        exact congrArg some (without_returned hi _).symm
  · -- stopping: one call joins the session
    by_cases hj : s.joinable = true
    · rw [if_pos hj, if_pos (show (s.without id).joinable = true from hj)]
      exact congrArg some (without_waiting (s := { s with joinable := false }) hi _).symm
    · rw [if_neg hj, if_neg (show ¬(s.without id).joinable = true from hj)]
      exact congrArg some (without_returned hi _).symm
  · by_cases ho : s.phase.IsOver
    · rw [if_pos ho, if_pos (isOver_without.mpr ho)]
      exact congrArg some (without_returned hi _).symm
    · rw [if_neg ho, if_neg ((not_congr isOver_without).mpr ho)]
      rfl
  · -- queueing: the session is over, or there is room in the queue, or the call waits on
    rename_i line _
    by_cases ho : s.phase.IsOver
    · rw [if_pos ho, if_pos (isOver_without.mpr ho)]
      exact congrArg some (without_returned hi _).symm
    · rw [if_neg ho, if_neg ((not_congr isOver_without).mpr ho)]
      have hlen : (s.without id).queue.length = s.queue.length := List.length_map _
      by_cases hq : s.queue.length < queueSize
      · rw [if_pos hq, if_pos (hlen ▸ hq)]
        exact congrArg some (without_enqueued hi line).symm
      · rw [if_neg hq, if_neg (hlen ▸ hq)]
        rfl

theorem pending?_without : (s.without id).pending? =
    s.pending?.map fun p => (p.1.without id, p.2) := by
  obtain ⟨k, now, phase, cancelled, joinable, published, mode, tracker, snapshot, queue, calls,
    callCount, attempts, connections, history⟩ := s
  cases phase <;> rfl

theorem afterHanding_without : s.afterHanding.without id = (s.without id).afterHanding := by
  obtain ⟨k, now, phase, cancelled, joinable, published, mode, tracker, snapshot, queue, calls,
    callCount, attempts, connections, history⟩ := s
  cases phase with
  | greeting =>
    by_cases hb : k.HasHeartbeat now
    · exact (congrArg (without id) (if_pos hb)).trans (if_pos hb).symm
    · exact (congrArg (without id) (if_neg hb)).trans (if_neg hb).symm
  | _ => rfl

theorem listens_without : (s.without id).Listens ↔ s.Listens := by
  unfold Listens
  change ((∃ d, s.phase.without id = .live d) ∧ ¬s.cancelled = true) ↔ _
  cases s.phase <;> simp [Phase.without]

theorem ingest_without (line : String) :
    (s.ingest line).without id = (s.without id).ingest line := by
  unfold ingest
  cases Snapshot.ofLine? line with
  | none => rfl
  | some snap =>
    obtain ⟨k, now, phase, cancelled, joinable, published, mode, tracker, snapshot, queue, calls,
      callCount, attempts, connections, history⟩ := s
    rcases hobs : tracker.observe (some snap) with ⟨m, _ | c⟩
    · simp only [record, without, hobs]
      rfl
    · simp only [record, without, hobs]
      rfl

theorem timer?_without : (s.without id).timer? = s.timer? := by
  obtain ⟨k, now, phase, cancelled, joinable, published, mode, tracker, snapshot, queue, calls,
    callCount, attempts, connections, history⟩ := s
  cases phase <;> rfl

/-- A move that is possible if a condition holds. -/
theorem guard_without {P Q : Prop} [Decidable P] [Decidable Q] (hpq : Q ↔ P) {u v : State}
    (h : v = u.without id) :
    (if Q then some v else none) = (if P then some u else none).map (without id) := by
  by_cases hp : P
  · rw [if_pos hp, if_pos (hpq.mpr hp), h]
    rfl
  · rw [if_neg hp, if_neg ((not_congr hpq).mpr hp)]
    rfl

theorem elapse?_without (ms : Nat) : (s.without id).elapse? ms = (s.elapse? ms).map (without id) := by
  refine guard_without (and_congr ?_ ?_) rfl
  · rw [act?_without, Option.map_eq_none_iff]
  · rw [timer?_without]
    rfl

theorem handed?_without : (s.without id).handed? = s.handed?.map (without id) := by
  unfold handed?
  rw [pending?_without, Option.map_map, Option.map_map]
  congr 1
  funext p
  exact (afterHanding_without (s := s.record (.handed s.connections p.1 p.2))).symm

theorem handFailed?_without : (s.without id).handFailed? = s.handFailed?.map (without id) := by
  unfold handFailed?
  rw [pending?_without, Option.map_map, Option.map_map]
  rfl

theorem closed?_without : (s.without id).closed? = s.closed?.map (without id) := by
  obtain ⟨k, now, phase, cancelled, joinable, published, mode, tracker, snapshot, queue, calls,
    callCount, attempts, connections, history⟩ := s
  cases phase <;> rfl

/-- What happens is the same without a call, its own steps left out. -/
theorem turn?_without {t t' : Turn} (hid : id < s.callCount) (ht : t.without id = some t') :
    (s.without id).turn? t' = (s.turn? t).map (without id) := by
  cases t with
  | late ms =>
    obtain rfl := Option.some.inj ht
    rfl
  | move m =>
    cases m with
    | resume i =>
      by_cases hi : i = id
      · exact absurd ((if_pos hi).symm.trans ht) (by simp)
      · obtain rfl := Option.some.inj ((if_neg hi).symm.trans ht)
        exact resume?_without hi
    | elapse ms =>
      obtain rfl := Option.some.inj ht
      exact elapse?_without ms
    | call r =>
      obtain rfl := Option.some.inj ht
      exact congrArg some (without_call hid r).symm
    | act =>
      obtain rfl := Option.some.inj ht
      exact act?_without
    | handed =>
      obtain rfl := Option.some.inj ht
      exact handed?_without
    | handFailed =>
      obtain rfl := Option.some.inj ht
      exact handFailed?_without
    | received line =>
      obtain rfl := Option.some.inj ht
      exact guard_without listens_without (ingest_without line).symm
    | closed =>
      obtain rfl := Option.some.inj ht
      exact closed?_without
    | opened | refused =>
      obtain rfl := Option.some.inj ht
      exact guard_without (and_congr (phase_without_eq_iff rfl) Iff.rfl) rfl
    | faulted | hungUp =>
      obtain rfl := Option.some.inj ht
      exact guard_without listens_without rfl

end State
end AlarmKeypad.Session
