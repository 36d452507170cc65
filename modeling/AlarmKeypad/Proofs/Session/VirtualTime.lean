import AlarmKeypad.Proofs.Session.Advance
/-!
# Runs in virtual time

A run of moves alone: time passes only while the session waits, and never beyond its timer. So a
session that has something to do at some time has done it before any later time.
-/

namespace AlarmKeypad.Session.State

variable {s s' : State} {m : Move} {ms : List Move}

def play (s : State) (ms : List Move) : State := s.run (ms.map .move)

@[simp] theorem play_nil (s : State) : s.play [] = s := rfl

theorem play_concat (s : State) (ms : List Move) (m : Move) :
    s.play (ms ++ [m]) = (s.play ms).turn (.move m) := by
  rw [play, List.map_append, run_append]
  rfl

/-- Whether a time is over for the session: it is past, or it has come and nothing is left to do. -/
def IsOverdue (s : State) (t : Nat) : Prop :=
  t < s.now ∨ t = s.now ∧ s.act? = none ∧ s.pending? = none

theorem stamped_act (ha : s.act? = some s') : ∀ e ∈ s'.history, e ∈ s.history ∨ e.time = s.now := by
  unfold act? at ha
  split at ha <;> grind [record, goTo, drop, publish]

theorem stamped_call (s : State) (r : Request) :
    ∀ e ∈ (s.call r).history, e ∈ s.history ∨ e.time = s.now := by
  cases r <;> grind [State.call, record, returned, waiting, offer]

theorem stamped_resume {id : Nat} (hr : s.resume? id = some s') :
    ∀ e ∈ s'.history, e ∈ s.history ∨ e.time = s.now := by
  unfold resume? at hr
  split at hr <;> grind [record, returned, waiting]

/-- What happens in a turn bears the time of the turn. -/
theorem stamped_turn {t : Turn} (ht : s.turn? t = some s') :
    ∀ e ∈ s'.history, e ∈ s.history ∨ e.time = s.now := by
  cases t with
  | late ms => exact Option.some.inj ht ▸ fun e => .inl
  | move m =>
    cases m with
    | call r => exact Option.some.inj ht ▸ stamped_call s r
    | resume id => exact stamped_resume ht
    | act => exact stamped_act ht
    | handed =>
      obtain ⟨⟨source, line⟩, -, rfl⟩ := Option.map_eq_some_iff.mp ht
      grind [afterHanding, setHeartbeat, record, goTo, drop]
    | handFailed =>
      obtain ⟨⟨source, line⟩, -, rfl⟩ := Option.map_eq_some_iff.mp ht
      grind [record, goTo]
    | received line =>
      obtain ⟨-, hs⟩ := Option.ite_none_right_eq_some.mp ht
      grind [ingest, record]
    | closed =>
      obtain ⟨-, rfl⟩ := of_closed? ht
      grind [drop, record, goTo]
    | _ =>
      obtain ⟨-, hs⟩ := Option.ite_none_right_eq_some.mp ht
      grind [record, goTo]

/-- Nothing that has happened lies in the future. -/
def Dated (s : State) : Prop := ∀ e ∈ s.history, e.time ≤ s.now

theorem run_dated (k : KeypadSettings) (ts : List Turn) : ((init k).run ts).Dated := by
  refine run_induction (fun s t s' h ht e he => ?_) (fun e he => nomatch he) ts
  have hnow : s.now ≤ s'.now := turn_eq ht ▸ now_le_turn s t
  rcases stamped_turn ht e he with hold | hnew
  · exact Nat.le_trans (h e hold) hnow
  · exact Nat.le_trans (Nat.le_of_eq hnew) hnow

end AlarmKeypad.Session.State
