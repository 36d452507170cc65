import AlarmKeypad.Proofs.Session.History
import AlarmKeypad.Proofs.Session.Run

namespace AlarmKeypad.Session

/-- A longer history, with nothing new in it but events that are allowed. -/
inductive Adds (P : Event → Prop) (h : List Stamped) : List Stamped → Prop
  | refl : Adds P h h
  | cons {h' : List Stamped} (e : Stamped) (ha : Adds P h h') (he : P e.event) : Adds P h (e :: h')

namespace Adds

variable {P Q : Event → Prop} {h h' : List Stamped}

theorem suffix (ha : Adds P h h') : h <:+ h' := by
  induction ha with
  | refl => exact List.suffix_refl _
  | cons e _ _ ih => exact ih.trans (List.suffix_cons e _)

theorem mono (ha : Adds P h h') (hPQ : ∀ e, P e → Q e) : Adds Q h h' := by
  induction ha with
  | refl => exact .refl
  | cons e _ he ih => exact ih.cons e (hPQ _ he)

/-- What no allowed event changes stays as it was. -/
theorem eq_of_cons {α : Type} {f : List Stamped → α} (ha : Adds P h h')
    (hf : ∀ e h, P e.event → f (e :: h) = f h) : f h' = f h := by
  induction ha with
  | refl => rfl
  | cons e _ he ih => exact (hf e _ he).trans ih

theorem collect_eq {α : Type} {f : Event → Option α} (ha : Adds P h h')
    (hf : ∀ e, P e → f e = none) : collect f h' = collect f h :=
  ha.eq_of_cons fun e h he => by
    rw [collect_cons, hf _ he, Option.toList_none, List.append_nil]

end Adds

namespace State

/-- What may happen in a turn. -/
def Allows (s : State) (t : Turn) : Event → Prop
  | .called .. => ∃ r, t = .move (.call r)
  | .returned .. => (∃ r, t = .move (.call r)) ∨ ∃ id, t = .move (.resume id)
  | .spawned => (∃ id, t = .move (.resume id)) ∧ s.phase = .idle
  | .queued _ => (∃ id, t = .move (.resume id)) ∧ ¬s.phase.IsOver
  | .attempted _ => s.phase = .dialing ∧ s.cancelled = false
  | .opened _ | .refused => s.phase = .opening ∧ s.cancelled = false
  | .stale _ | .drained _ => s.phase = .draining
  | .handed c source line =>
    t = .move .handed ∧ c = s.connections ∧ s.pending? = some (source, line)
  | .handFailed c source line =>
    t = .move .handFailed ∧ c = s.connections ∧ s.pending? = some (source, line)
  | .received .. | .modeChanged _ | .faulted _ | .hungUp _ => s.Listens
  | .published .connecting => s.phase = .starting
  | .published .connected => s.phase = .announcing
  | .published .closing | .closing _ => s.phase = .ended .failed ∨ s.phase = .ended .shutdown
  | .published .disconnected => s.phase = .leaving
  | .dropped _ => s.phase = .greeting ∨ s.phase = .ended .hungUp ∨ ∃ d, s.phase = .closing d

def Leaves (s : State) : Turn → Prop
  | .move .act => s.act?.isSome = true
  | .move (.resume _) => s.phase = .idle
  | .move .opened | .move .refused => s.phase = .opening ∧ s.cancelled = false
  | .move .handed | .move .handFailed => s.pending?.isSome = true
  | .move .faulted | .move .hungUp => s.Listens
  | .move .closed => ∃ d, s.phase = .closing d
  | _ => False

/-- What a turn keeps and what it may add. -/
structure Advances (s : State) (t : Turn) (s' : State) : Prop where
  adds : Adds (s.Allows t) s.history s'.history
  told : s.cancelled = true → s'.cancelled = true
  started : s.phase ≠ .idle → s'.phase ≠ .idle
  calls : (∀ r, t ≠ .move (.call r)) → (∀ id, t ≠ .move (.resume id)) → s'.calls = s.calls
  phase : ¬s.Leaves t → s'.phase = s.phase

variable {s s' : State} {t : Turn}

theorem advances_act (h : s.act? = some s') : s.Advances (.move .act) s' := by
  have hl : s.Leaves (.move .act) := Option.isSome_iff_exists.mpr ⟨s', h⟩
  unfold act? at h
  constructor <;> split at h <;> grind [record, goTo, drop, publish, Allows, Adds]

theorem advances_call (s : State) (r : Request) : s.Advances (.move (.call r)) (s.call r) := by
  constructor <;> cases r <;> grind [call, record, returned, waiting, offer, Allows, Adds]

theorem advances_resume {id : Nat} (h : s.resume? id = some s') :
    s.Advances (.move (.resume id)) s' := by
  unfold resume? at h
  constructor <;> split at h <;> grind [record, returned, waiting, Allows, Adds, Leaves]

theorem advances_ingest (hl : s.Listens) (line : String) : s.Advances t (s.ingest line) := by
  have received : Adds (s.Allows t) s.history
      (s.record (.received s.connections line)).history := Adds.refl.cons _ hl
  unfold ingest
  dsimp only
  split
  · exact ⟨received, id, id, fun _ _ => rfl, fun _ => rfl⟩
  · split
    · exact ⟨received, id, id, fun _ _ => rfl, fun _ => rfl⟩
    · exact ⟨received.cons _ hl, id, id, fun _ _ => rfl, fun _ => rfl⟩

theorem advances_handed (h : s.handed? = some s') : s.Advances (.move .handed) s' := by
  obtain ⟨⟨source, line⟩, hp, rfl⟩ := Option.map_eq_some_iff.mp h
  have hl : s.Leaves (.move .handed) := Option.isSome_iff_exists.mpr ⟨_, hp⟩
  constructor <;> unfold afterHanding <;> split <;>
    grind [setHeartbeat, record, goTo, drop, Allows, Adds]

/-- An event of the connection that leads to a later phase. -/
theorem advances_goTo {u : State} {e : Event} {p : Phase} (hl : s.Leaves t) (he : s.Allows t e)
    (hh : u.history = s.history) (hc : u.cancelled = s.cancelled) (hcalls : u.calls = s.calls)
    (hp : p ≠ .idle) : s.Advances t ((u.record e).goTo p) where
  adds := by
    rw [goTo, record, hh]
    exact Adds.refl.cons _ he
  told h := hc.trans h
  started _ := hp
  calls _ _ := hcalls
  phase h := absurd hl h

theorem advances_move {m : Move} (h : s.move? m = some s') : s.Advances (.move m) s' := by
  cases m with
  | elapse ms =>
    obtain ⟨-, hs⟩ := Option.ite_none_right_eq_some.mp h
    exact Option.some.inj hs ▸ ⟨.refl, id, id, fun _ _ => rfl, fun _ => rfl⟩
  | call r => exact Option.some.inj h ▸ s.advances_call r
  | resume id => exact advances_resume h
  | act => exact advances_act h
  | handed => exact advances_handed h
  | handFailed =>
    obtain ⟨⟨source, line⟩, hp, rfl⟩ := Option.map_eq_some_iff.mp h
    exact advances_goTo (Option.isSome_iff_exists.mpr ⟨_, hp⟩) ⟨rfl, rfl, hp⟩ rfl rfl rfl nofun
  | received line =>
    obtain ⟨hl, hs⟩ := Option.ite_none_right_eq_some.mp h
    exact Option.some.inj hs ▸ advances_ingest hl line
  | closed =>
    obtain ⟨hp, rfl⟩ := of_closed? h
    exact advances_goTo hp (.inr (.inr hp)) rfl rfl rfl nofun
  | opened | refused =>
    obtain ⟨⟨hp, hc⟩, hs⟩ := Option.ite_none_right_eq_some.mp h
    have hl := And.intro hp (eq_false_of_ne_true hc)
    exact Option.some.inj hs ▸ advances_goTo hl hl rfl rfl rfl nofun
  | faulted | hungUp =>
    obtain ⟨hl, hs⟩ := Option.ite_none_right_eq_some.mp h
    exact Option.some.inj hs ▸ advances_goTo hl hl rfl rfl rfl nofun

theorem advances_turn (h : s.turn? t = some s') : s.Advances t s' := by
  cases t with
  | move m => exact advances_move h
  | late ms => exact Option.some.inj h ▸ ⟨.refl, id, id, fun _ _ => rfl, fun _ => rfl⟩

theorem phase_call (s : State) (r : Request) : (s.call r).phase = s.phase :=
  (s.advances_call r).phase id

/-- Only a call starts a session. -/
theorem resume_of_leaves (hp : s.phase = .idle) (hl : s.Leaves t) :
    ∃ id, t = .move (.resume id) := by
  unfold Leaves at hl
  split at hl <;> grind [act?, pending?, Listens]

/-- What has happened stays in the history. -/
theorem history_suffix_run (s : State) (ts : List Turn) : s.history <:+ (s.run ts).history :=
  run_induction (P := fun u => s.history <:+ u.history)
    (fun _ _ _ hu ht => hu.trans (advances_turn ht).adds.suffix) (List.suffix_refl _) ts

/-- A call for shutdown stays heard. -/
theorem cancelled_run (hc : s.cancelled = true) (ts : List Turn) : (s.run ts).cancelled = true :=
  run_induction (P := fun u => u.cancelled = true)
    (fun _ _ _ hu ht => (advances_turn ht).told hu) hc ts

end State
end AlarmKeypad.Session
