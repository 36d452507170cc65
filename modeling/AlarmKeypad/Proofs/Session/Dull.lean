import AlarmKeypad.Proofs.Session.Mask

namespace AlarmKeypad.Session

def bringsSnapshot (line : String) : Bool := (Snapshot.ofLine? line).isSome

/-- A line has come that brings no snapshot. -/
def Event.isDull : Event → Bool
  | .received _ line => !bringsSnapshot line
  | _ => false

def Turn.isDull : Turn → Bool
  | .move (.received line) => !bringsSnapshot line
  | _ => false

namespace State

/-- The state as if no dull line had come. -/
def pruned (s : State) : State :=
  { s with history := s.history.filter fun e => !e.event.isDull }

variable {s : State}

/-- What does not tell of dull lines stays when they go. -/
theorem collect_pruned {α : Type} {f : Event → Option α} (hf : ∀ e, e.isDull = true → f e = none)
    (h : List Stamped) : collect f (h.filter fun e => !e.event.isDull) = collect f h := by
  induction h with
  | nil => rfl
  | cons e h ih =>
    cases he : e.event.isDull with
    | false => rw [List.filter_cons_of_pos (by simp [he]), collect_cons, collect_cons, ih]
    | true =>
      rw [List.filter_cons_of_neg (by simp [he]), collect_cons, ih, hf _ he]
      exact (List.append_nil _).symm

theorem word_pruned (s : State) : s.pruned.word = s.word := by
  have hchanges : changes s.pruned.history = changes s.history := by
    rw [changes_eq, changes_eq]
    refine collect_pruned (fun e he => ?_) s.history
    cases e with
    | received c line => rfl
    | _ => exact absurd he Bool.false_ne_true
  rw [word, word, hchanges]
  rfl

theorem pruned_record {e : Event} (he : e.isDull = false) :
    (s.record e).pruned = s.pruned.record e := by
  simp [pruned, record, he]

theorem pruned_record_dull {e : Event} (he : e.isDull = true) :
    (s.record e).pruned = s.pruned := by
  simp [pruned, record, he]

/-- What is dull is left out by a mask. -/
theorem pruned_eq_under : pruned = under ⟨bringsSnapshot, true⟩ := by
  have hshows : (fun e : Stamped => !e.event.isDull) =
      fun e => Mask.shows ⟨bringsSnapshot, true⟩ e.event := by
    funext ⟨_, e⟩
    cases e with
    | received c line => exact Bool.not_not _
    | _ => rfl
  funext s
  rw [pruned, hshows]
  rfl

theorem taking_pruned (snap : Snapshot) : s.pruned.taking snap = (s.taking snap).pruned := by
  unfold taking
  have htracker : s.pruned.tracker = s.tracker := rfl
  rw [htracker]
  split <;> rfl

theorem ingest_pruned {line : String} {snap : Snapshot} (h : Snapshot.ofLine? line = some snap) :
    s.pruned.ingest line = (s.ingest line).pruned := by
  rw [ingest_of_snapshot _ h, ingest_of_snapshot _ h, ← taking_pruned,
    pruned_record (by simp [Event.isDull, bringsSnapshot, h])]
  rfl

theorem move?_pruned {m : Move} (hm : (Turn.move m).isDull = false) :
    s.pruned.move? m = (s.move? m).map pruned := by
  by_cases hline : ∃ line, m = .received line
  · obtain ⟨line, rfl⟩ := hline
    obtain ⟨snap, hsnap⟩ := Option.isSome_iff_exists.mp (Bool.not_eq_eq_eq_not.mp hm)
    change (if s.Listens then some (s.pruned.ingest line) else none) =
      (if s.Listens then some (s.ingest line) else none).map pruned
    split
    · exact congrArg some (ingest_pruned hsnap)
    · rfl
  · rw [pruned_eq_under]
    exact move?_under fun line h => hline ⟨line, h⟩

/-- A turn takes no account of what has happened. -/
theorem turn_pruned {t : Turn} (ht : t.isDull = false) : s.pruned.turn t = (s.turn t).pruned := by
  cases t with
  | late ms => rfl
  | move m =>
    rw [turn, turn, turn?, turn?, move?_pruned ht]
    cases s.move? m <;> rfl

/-- A dull line leaves nothing behind. -/
theorem turn_dull {t : Turn} (ht : t.isDull = true) : (s.turn t).pruned = s.pruned := by
  cases t with
  | late ms => exact absurd ht Bool.false_ne_true
  | move m =>
    cases m with
    | received line =>
      have hline : Snapshot.ofLine? line = none := by
        simpa [Turn.isDull, bringsSnapshot] using ht
      rw [turn, turn?, move?, received?]
      split
      · rw [Option.getD_some, ingest, hline]
        exact pruned_record_dull ht
      · rfl
    | _ => exact absurd ht Bool.false_ne_true

/-- Without the lines that bring no snapshot a run is the same but for having received them. -/
theorem run_pruned (ts : List Turn) :
    s.pruned.run (ts.filter fun t => !t.isDull) = (s.run ts).pruned := by
  -- on the turns, for every state: a dull turn leaves a state that is pruned to the same
  induction ts generalizing s with
  | nil => rfl
  | cons t ts ih =>
    cases ht : t.isDull with
    | false =>
      rw [List.filter_cons_of_pos (by simp [ht]), run_cons, run_cons, turn_pruned ht, ih]
    | true =>
      rw [List.filter_cons_of_neg (by simp [ht]), run_cons, ← ih, turn_dull ht]

end State
end AlarmKeypad.Session
