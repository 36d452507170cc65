import AlarmKeypad.Proofs.Session.Poll

namespace AlarmKeypad.Session

def Slice.without (id : Nat) : Slice → Option Slice
  | .look => some .look
  | .turn t => (t.without id).map .turn

namespace Polled

def without (id : Nat) (p : Polled) : Polled := { p with state := p.state.without id }

/-- What a poll that is under way may still add to the attempts to connect. -/
def dialsDue (p : Polled) : List (List Event) :=
  let outcomes := [[], [.opened (p.state.connections + 1)], [.refused]]
  match p.polling, p.state.phase with
  | true, .dialing => [] :: outcomes.map (.attempted (p.state.attempts + 1) :: ·)
  | true, .opening => outcomes
  | _, _ => [[]]

variable {p p' : Polled} {b : Slice} {s s' : State} {t : Turn} {id : Nat}

theorem nil_mem_dialsDue (p : Polled) : [] ∈ p.dialsDue := by
  unfold dialsDue
  split <;> simp

theorem counts_of_isAside (ha : t.IsAside) (ht : s.turn? t = some s') :
    s'.attempts = s.attempts ∧ s'.connections = s.connections := by
  cases t with
  | late ms => exact Option.some.inj ht ▸ ⟨rfl, rfl⟩
  | move m =>
    cases m with
    | call r =>
      obtain rfl := Option.some.inj ht
      cases r <;> grind [State.call, State.record, State.returned, State.waiting, State.offer]
    | resume id =>
      change s.resume? id = some s' at ht
      unfold State.resume? at ht
      split at ht <;> grind [State.record, State.returned, State.waiting]
    | _ => exact ha.elim

theorem dials_pollRest {m : Move} (hp : s.phase.polls = true) (hr : s.pollRest? m = some s') :
    ∃ ds, dials s'.history = dials s.history ++ ds ∧
      ∀ es ∈ dialsDue ⟨s', s'.phase = .opening⟩, ds ++ es ∈ dialsDue ⟨s, true⟩ := by
  have same {d : Nat} (hd : s.phase = .live d ∨ s.phase = .resting d) :
      dials s'.history = dials s.history ++ [] := by
    rw [List.append_nil]
    refine (State.adds_pollRest hr).collect_eq fun e he => ?_
    cases e <;> grind [State.Allows, Event.isDial]
  cases State.tries_of_pollRest hp hr with
  | attempt hd =>
    exact ⟨[.attempted (s.attempts + 1)], rfl, by simp [dialsDue, hd, State.goTo, State.record]⟩
  | opened hd => exact ⟨[.opened (s.connections + 1)], rfl, by simp [dialsDue, hd, State.goTo]⟩
  | refused hd => exact ⟨[.refused], rfl, by simp [dialsDue, hd, State.goTo]⟩
  | received hd line =>
    exact ⟨[], same (.inl hd), by simp [dialsDue, hd, State.phase_ingest]⟩
  | wake hd ht => exact ⟨[], same (.inr hd), by simp [dialsDue, hd, State.goTo]⟩
  | send hd hq | ping hd hq ht | faulted hd | hungUp hd =>
    exact ⟨[], same (.inl hd), by simp [dialsDue, hd, State.goTo]⟩

/-- Only the poll that is under way adds to the attempts of a session that has been told to stop. -/
theorem dials_slice (hp : p.Sound) (hc : p.state.cancelled = true) (hb : p.slice? b = some p') :
    ∃ ds, dials p'.state.history = dials p.state.history ++ ds ∧
      ∀ es ∈ p'.dialsDue, ds ++ es ∈ p.dialsDue := by
  have hturn {s s' : State} {t : Turn} (hc : s.cancelled = true) (ht : s.turn? t = some s') :
      dials s'.history = dials s.history ++ [] := by
    rw [List.append_nil, ← State.dials_run hc [t], State.run_cons, State.turn_eq ht]
    rfl
  cases step_of_slice hb with
  | look hpolls hnot => exact nomatch hc.symm.trans hnot
  | whole ht => exact ⟨[], hturn hc ht, fun es he => he⟩
  | @aside s t s' ha ht =>
    obtain ⟨hattempts, hconnections⟩ := counts_of_isAside ha ht
    have hphase := phase_of_isAside hp.phase_polls ha ht
    have hdue : dialsDue ⟨s', true⟩ = dialsDue ⟨s, true⟩ := by
      simp only [dialsDue, hphase, hattempts, hconnections]
    exact ⟨[], hturn hc ht, fun es he => hdue ▸ he⟩
  | rest hr => exact dials_pollRest hp.phase_polls hr
  | nothing =>
    refine ⟨[], (List.append_nil _).symm, fun es he => ?_⟩
    obtain rfl := List.mem_singleton.mp he
    exact nil_mem_dialsDue _

theorem dials_run (hp : p.Sound) (hc : p.state.cancelled = true) (bs : List Slice) :
    ∃ ds ∈ p.dialsDue, dials (p.run bs).state.history = dials p.state.history ++ ds := by
  induction bs generalizing p with
  | nil => exact ⟨[], nil_mem_dialsDue p, (List.append_nil _).symm⟩
  | cons b bs ih =>
    cases hb : p.slice? b with
    | none =>
      rw [run_cons, slice_eq_self hb]
      exact ih hp hc
    | some p' =>
      obtain ⟨ds, hdials, hdue⟩ := dials_slice hp hc hb
      obtain ⟨es, hes, hrun⟩ := ih (hp.slice hb) (told_slice hc hb)
      refine ⟨ds ++ es, hdue es hes, ?_⟩
      rw [run_cons, slice_eq hb, hrun, hdials, List.append_assoc]

end Polled

/-- Shutdown is called while the first attempt is on its way. -/
def interrupted : List Slice :=
  [.turn (.move (.call .connect)), .turn (.move (.resume 0)), .turn (.move .act),
    .turn (.move .act), .turn (.move (.call .shutdown))]

/-- Shutdown is called when the session has looked for such a call and is about to dial. -/
def unheeded : List Slice :=
  [.turn (.move (.call .connect)), .turn (.move (.resume 0)), .turn (.move .act), .look,
    .turn (.move (.call .shutdown))]

/-- The attempt is still made, and a connection that opens at once is taken. -/
example : dials ((Polled.init .default).run (unheeded ++
    [.turn (.move .act), .turn (.move .opened), .turn (.move .opened)])).state.history =
      [.attempted 1, .opened 1] := by
  decide +kernel

end AlarmKeypad.Session
