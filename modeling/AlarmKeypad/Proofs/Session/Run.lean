import AlarmKeypad.Session.Move
/-!
# Runs of a keypad

A run is any sequence of moves, with time that passes between any two of them: a session may be
late for its timers, and for the lines that wait. A turn that is not possible is passed over, so
every list of turns is a run.
-/

namespace AlarmKeypad.Session

inductive Turn where
  | move (m : Move)
  /-- Time passes, whatever the session has to do. -/
  | late (ms : Nat)
deriving DecidableEq

def Turn.passes : Turn → Nat
  | .late ms | .move (.elapse ms) => ms
  | _ => 0

namespace State

def turn? (s : State) : Turn → Option State
  | .move m => s.move? m
  | .late ms => some { s with now := s.now + ms }

def turn (s : State) (t : Turn) : State := (s.turn? t).getD s

def run (s : State) (ts : List Turn) : State := ts.foldl turn s

@[simp] theorem run_nil (s : State) : s.run [] = s := rfl

@[simp] theorem run_cons (s : State) (t : Turn) (ts : List Turn) :
    s.run (t :: ts) = (s.turn t).run ts := rfl

theorem run_append (s : State) (ts us : List Turn) : s.run (ts ++ us) = (s.run ts).run us :=
  List.foldl_append

theorem turn_eq {s s' : State} {t : Turn} (h : s.turn? t = some s') : s.turn t = s' := by
  simp [turn, h]

theorem turn_eq_self {s : State} {t : Turn} (h : s.turn? t = none) : s.turn t = s := by
  simp [turn, h]

/-- What every possible turn keeps holds after a run. -/
theorem run_induction {P : State → Prop} {s : State}
    (step : ∀ s t s', P s → s.turn? t = some s' → P s') (h : P s) (ts : List Turn) :
    P (s.run ts) := by
  induction ts generalizing s with
  | nil => exact h
  | cons t ts ih =>
    apply ih
    cases ht : s.turn? t with
    | none => exact (turn_eq_self ht).symm ▸ h
    | some u => exact (turn_eq ht).symm ▸ step s t u h ht

/-- What every possible turn after a run keeps holds after a run. -/
theorem run_prefix_induction {P : State → Prop} {s : State}
    (step : ∀ ts t s', P (s.run ts) → (s.run ts).turn? t = some s' → P s') (h : P s)
    (ts : List Turn) : P (s.run ts) := by
  suffices hall : ∀ us vs, P (s.run us) → P (s.run (us ++ vs)) from hall [] ts h
  intro us vs hus
  induction vs generalizing us with
  | nil => exact (List.append_nil us).symm ▸ hus
  | cons t vs ih =>
    rw [List.append_cons]
    apply ih
    rw [run_append, run_cons, run_nil]
    cases ht : (s.run us).turn? t with
    | none => exact (turn_eq_self ht).symm ▸ hus
    | some u => exact (turn_eq ht).symm ▸ step us t u hus ht

theorem of_closed? {s s' : State} (h : s.closed? = some s') :
    (∃ d, s.phase = .closing d) ∧ s' = s.drop.goTo .leaving := by
  unfold closed? at h
  split at h
  · rename_i d hphase
    exact ⟨⟨d, hphase⟩, (Option.some.inj h).symm⟩
  · exact nomatch h

theorem settings_act {s s' : State} (h : s.act? = some s') : s'.settings = s.settings := by
  unfold act? at h
  split at h <;> grind [record, goTo, drop, publish]

theorem settings_call (s : State) (r : Request) : (s.call r).settings = s.settings := by
  cases r <;> grind [call, record, returned, waiting, offer]

theorem settings_resume {s s' : State} {id : Nat} (h : s.resume? id = some s') :
    s'.settings = s.settings := by
  unfold resume? at h
  split at h <;> grind [record, returned, waiting]

theorem settings_ingest (s : State) (line : String) : (s.ingest line).settings = s.settings := by
  grind [ingest, record]

theorem settings_afterHanding (s : State) : s.afterHanding.settings = s.settings := by
  grind [afterHanding, setHeartbeat, goTo, drop, record]

theorem settings_move {s s' : State} {m : Move} (h : s.move? m = some s') :
    s'.settings = s.settings := by
  cases m with
  | elapse ms => grind [move?, elapse?]
  | call r => exact Option.some.inj h ▸ settings_call s r
  | resume id => exact settings_resume h
  | act => exact settings_act h
  | opened => grind [move?, opened?, record, goTo]
  | refused => grind [move?, refused?, record, goTo]
  | handed =>
    obtain ⟨⟨source, line⟩, -, rfl⟩ := Option.map_eq_some_iff.mp h
    exact settings_afterHanding _
  | handFailed =>
    obtain ⟨⟨source, line⟩, -, rfl⟩ := Option.map_eq_some_iff.mp h
    rfl
  | received line => grind [move?, received?, settings_ingest]
  | faulted => grind [move?, faulted?, record, goTo]
  | hungUp => grind [move?, hungUp?, record, goTo]
  | closed =>
    obtain ⟨-, rfl⟩ := of_closed? h
    rfl

theorem settings_turn {s s' : State} {t : Turn} (h : s.turn? t = some s') :
    s'.settings = s.settings := by
  cases t with
  | move m => exact settings_move h
  | late ms => exact Option.some.inj h ▸ rfl

theorem settings_run (s : State) (ts : List Turn) : (s.run ts).settings = s.settings :=
  run_induction (P := fun u => u.settings = s.settings)
    (fun _ _ _ hu ht => (settings_turn ht).trans hu) rfl ts

theorem now_act {s s' : State} (h : s.act? = some s') : s'.now = s.now := by
  unfold act? at h
  split at h <;> grind [record, goTo, drop, publish]

theorem now_resume {s s' : State} {i : Nat} (h : s.resume? i = some s') : s'.now = s.now := by
  unfold resume? at h
  split at h <;> grind [record, returned, waiting]

theorem now_call (s : State) (r : Request) : (s.call r).now = s.now := by
  cases r <;> grind [call, record, returned, waiting, offer]

theorem now_ingest (s : State) (line : String) : (s.ingest line).now = s.now := by
  grind [ingest, record]

/-- Time passes only in turns that are made for it. -/
theorem now_turn {s s' : State} {t : Turn} (h : s.turn? t = some s') :
    s'.now = s.now + t.passes := by
  cases t with
  | late ms => exact Option.some.inj h ▸ rfl
  | move m =>
    cases m with
    | call r => exact Option.some.inj h ▸ now_call s r
    | resume i => exact now_resume h
    | act => exact now_act h
    | handed =>
      obtain ⟨⟨source, line⟩, hp, rfl⟩ := Option.map_eq_some_iff.mp h
      grind [afterHanding, setHeartbeat, record, goTo, drop, Turn.passes]
    | handFailed =>
      obtain ⟨⟨source, line⟩, hp, rfl⟩ := Option.map_eq_some_iff.mp h
      rfl
    | received line =>
      obtain ⟨-, hs⟩ := Option.ite_none_right_eq_some.mp h
      exact Option.some.inj hs ▸ now_ingest s line
    | closed =>
      obtain ⟨-, rfl⟩ := of_closed? h
      rfl
    | _ =>
      obtain ⟨-, hs⟩ := Option.ite_none_right_eq_some.mp h
      exact Option.some.inj hs ▸ rfl

theorem now_le_turn (s : State) (t : Turn) : s.now ≤ (s.turn t).now := by
  cases h : s.turn? t with
  | none => exact Nat.le_of_eq (congrArg State.now (turn_eq_self h).symm)
  | some s' =>
    rw [turn_eq h, now_turn h]
    exact Nat.le_add_right _ _

theorem now_le_run (s : State) (ts : List Turn) : s.now ≤ (s.run ts).now := by
  induction ts generalizing s with
  | nil => exact Nat.le_refl _
  | cons t ts ih => exact Nat.le_trans (now_le_turn s t) (ih _)

end State

namespace Turn

/-- From an attempt to the first line of a connection, however many lines have to be dropped. -/
def connects : List Turn :=
  [.move .act, .move .act, .move .opened] ++ List.replicate (queueSize + 2) (.move .act) ++
    [.move .handed]

/-- A keypad is connected by its first call. -/
def begins : List Turn := [.move (.call .connect), .move (.resume 0)] ++ connects

/-- The device hangs up, and the delay before the next attempt passes. -/
def rests : List Turn :=
  [.move .hungUp, .move .act, .move .act, .move .act,
    .move (.elapse KeypadSettings.default.reconnectDelay), .move .act]

end Turn
end AlarmKeypad.Session
