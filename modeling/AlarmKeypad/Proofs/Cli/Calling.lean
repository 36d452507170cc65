import AlarmKeypad.Proofs.Cli.Dispatch
/-!
# The first call of a command and its last

A command begins with a call that connects the keypad and ends with one that shuts it down. Between
the steps of such a call the session may move, or take the step itself before the command comes to
it. In so many rounds the call has returned.
-/

namespace AlarmKeypad.Cli.Dispatch

open Session

section
variable {k : KeypadSettings} {s s' : State} {t : Session.Turn}

/-- The command has called for connecting, and nothing else has happened. -/
def Asked (k : KeypadSettings) (s : State) : Prop :=
  ∃ n m, s = { ({ State.init k with now := n }).call .connect with now := m }

theorem Asked.calls (h : Asked k s) : s.calls = [(0, .connecting)] := by
  obtain ⟨n, m, rfl⟩ := h
  rfl

structure Runs (s : State) : Prop where
  untold : s.cancelled = false
  calls : s.calls = []
  started : s.phase ≠ .idle

theorem Runs.turn (h : Runs s) (tracked : s.Tracked) (hcall : t.IsUncalled)
    (ht : s.turn? t = some s') : Runs s' where
  untold := (tracked.cancelled_turn hcall ht).trans h.untold
  calls := State.calls_nil_turn h.calls hcall ht
  started := (State.advances_turn ht).started h.started

/-- The call for connecting starts the session; nothing happens before. -/
theorem Asked.turn (h : Asked k s) (hcall : t.IsUncalled) (ht : s.turn? t = some s') :
    Asked k s' ∨ Runs s' ∧ s'.Told 0 .ok := by
  have hcalls := h.calls
  obtain ⟨n, m, hs⟩ := h
  have hlater (ms : Nat) : Asked k { s with now := s.now + ms } := ⟨n, m + ms, by rw [hs]⟩
  cases t with
  | late ms => exact .inl (Option.some.inj ht ▸ hlater ms)
  | move x =>
    cases x with
    | elapse ms =>
      obtain ⟨-, hs'⟩ := Option.ite_none_right_eq_some.mp ht
      exact .inl (Option.some.inj hs' ▸ hlater ms)
    | call r => exact absurd rfl (hcall r)
    | resume i =>
      obtain rfl := State.eq_of_resume hcalls ht
      subst hs
      obtain rfl := Option.some.inj ht
      exact .inr ⟨⟨rfl, rfl, nofun⟩, rfl, rfl⟩
    | received line | faulted | hungUp =>
      obtain ⟨⟨⟨d, hp⟩, -⟩, -⟩ := Option.ite_none_right_eq_some.mp ht
      exact nomatch hs ▸ hp
    | _ =>
      subst hs
      exact nomatch ht

end

/-- Where the command stands with its call for connecting, how many rounds are left until that has
returned, and the turn that is waited for. -/
inductive Starts (k : KeypadSettings) : Nat → Turn → List Move → State → Prop
  | called {s : State} (asked : Asked k s) : Starts k 4 .act [] s
  | connecting {s : State} (asked : Asked k s) : Starts k 3 .make [.resume 0] s
  /-- The call has returned already. -/
  | idle {s : State} (runs : Runs s) (told : s.Told 0 .ok) : Starts k 2 .make [.resume 0] s
  | returned {s : State} (runs : Runs s) (told : s.Told 0 .ok) : Starts k 1 .act [] s

namespace Starts

variable {k : KeypadSettings} {n : Nat} {t : Turn} {m : Move} {ms : List Move} {s s' : State}
  {u : Session.Turn}

theorem turn (h : Starts k n t ms s) (tracked : s.Tracked) (hcall : u.IsUncalled)
    (hu : s.turn? u = some s') :
    Starts k n t ms s' ∧ .session u ≠ t ∨ ∃ m < n, ∃ t', Starts k m t' ms s' := by
  cases h with
  | called asked =>
    rcases asked.turn hcall hu with asked' | ⟨runs, told⟩
    · exact .inl ⟨.called asked', nofun⟩
    · exact .inr ⟨1, by decide, _, .returned runs told⟩
  | connecting asked =>
    rcases asked.turn hcall hu with asked' | ⟨runs, told⟩
    · exact .inl ⟨.connecting asked', nofun⟩
    · exact .inr ⟨2, by decide, _, .idle runs told⟩
  | idle runs told =>
    exact .inl ⟨.idle (runs.turn tracked hcall hu) (told.turn hcall hu), nofun⟩
  | returned runs told =>
    exact .inl ⟨.returned (runs.turn tracked hcall hu) (told.turn hcall hu), nofun⟩

theorem due (h : Starts k n t (m :: ms) s) : m = .resume 0 ∧ ms = [] := by
  cases h <;> exact ⟨rfl, rfl⟩

theorem make (h : Starts k n t [.resume 0] s) :
    ∃ m < n, ∃ t', Starts k m t' [] (s.turn (.move (.resume 0))) := by
  cases h with
  | connecting asked =>
    obtain ⟨i, j, rfl⟩ := asked
    exact ⟨1, by decide, _, .returned ⟨rfl, rfl, nofun⟩ ⟨rfl, rfl⟩⟩
  | idle runs told =>
    have hr : s.turn? (.move (.resume 0)) = none := by
      simp [State.turn?, State.move?, State.resume?, told.calls]
    rw [State.turn_eq_self hr]
    exact ⟨1, by decide, _, .returned runs told⟩

theorem act {p : Program} {next : Reply → Program} {r : Program × List Move}
    (h : Starts k n t [] s) (hr : p.await s 0 next = some r) :
    r = (next .ok, []) ∧ Runs s ∨
      r = (p, [.resume 0]) ∧ ∃ m < n, ∃ t', Starts k m t' [.resume 0] s := by
  unfold Program.await at hr
  cases h with
  | called asked =>
    simp only [State.lookup_alone asked.calls] at hr
    obtain ⟨-, hr⟩ := Option.ite_none_right_eq_some.mp hr
    exact .inr ⟨(Option.some.inj hr).symm, 3, by decide, _, .connecting asked⟩
  | returned runs told =>
    have hl : s.calls.lookup 0 = none := by rw [told.calls, List.lookup_nil]
    simp only [hl, told.reply] at hr
    exact .inl ⟨(Option.some.inj hr).symm, runs⟩

theorem pos (h : Starts k n t ms s) : 0 < n := by
  cases h <;> decide

theorem suits (h : Starts k n t ms s) : t.Suits ms := by
  cases h <;> simp [Turn.Suits, onward]

theorem acts {p : Program} {next : Reply → Program} (h : Starts k n t [] s) :
    (p.await s 0 next).isSome = true := by
  unfold Program.await
  cases h with
  | called asked =>
    obtain ⟨i, j, rfl⟩ := asked
    rfl
  | returned runs told =>
    have hl : s.calls.lookup 0 = none := by rw [told.calls, List.lookup_nil]
    simp [hl, told.reply]

end Starts

/-- Where the command stands with its call for shutdown, how many rounds are left until that has
returned, and the turn that is waited for. -/
inductive Stops (id : Nat) : Nat → Turn → List Move → State → Prop
  | called {s : State} (calls : s.calls = [(id, .stopping)]) :
      Stops id (s.phase.remaining + 7) .act [] s
  | stopping {s : State} (calls : s.calls = [(id, .stopping)]) :
      Stops id (s.phase.remaining + 6) .make [.resume id] s
  /-- The step has been taken already, and there is nothing to go on with yet. -/
  | early {s : State} (calls : s.calls = [(id, .joining)]) (working : ¬s.phase.IsOver) :
      Stops id (s.phase.remaining + 5) .make [.resume id] s
  | waiting {s : State} (calls : s.calls = [(id, .joining)]) (working : ¬s.phase.IsOver) :
      Stops id (s.phase.remaining + 4) (.session (.move s.phase.onward)) [] s
  | ready {s : State} (calls : s.calls = [(id, .joining)]) (isOver : s.phase.IsOver) :
      Stops id (s.phase.remaining + 4) .act [] s
  | joining {s : State} (calls : s.calls = [(id, .joining)]) (isOver : s.phase.IsOver) :
      Stops id (s.phase.remaining + 3) .make [.resume id] s
  /-- The call has returned already. -/
  | idle {s : State} (told : s.Told id .ok) :
      Stops id (s.phase.remaining + 2) .make [.resume id] s
  | returned {s : State} (told : s.Told id .ok) :
      Stops id (s.phase.remaining + 1) .act [] s

namespace Stops

variable {id n : Nat} {t : Turn} {m : Move} {ms : List Move} {s s' : State} {u : Session.Turn}

/-- A call that waits for the end of the session. -/
theorem of_joining (calls : s.calls = [(id, .joining)]) :
    ∃ t, Stops id (s.phase.remaining + 4) t [] s := by
  by_cases hover : s.phase.IsOver
  · exact ⟨_, .ready calls hover⟩
  · exact ⟨_, .waiting calls hover⟩

theorem of_joining_due (calls : s.calls = [(id, .joining)]) :
    ∃ m ≤ s.phase.remaining + 5, ∃ t, Stops id m t [.resume id] s := by
  by_cases hover : s.phase.IsOver
  · exact ⟨_, by omega, _, .joining calls hover⟩
  · exact ⟨_, Nat.le_refl _, _, .early calls hover⟩

/-- What the step of the call leads to. -/
theorem resume_stopping (calls : s.calls = [(id, .stopping)]) (hr : s.resume? id = some s') :
    s'.phase = s.phase ∧ (s'.calls = [(id, .joining)] ∨ s'.Told id .ok) := by
  simp only [State.resume?, State.lookup_alone calls] at hr
  split at hr
  · obtain rfl := Option.some.inj hr
    exact ⟨rfl, .inl (by simp [State.waiting, calls])⟩
  · obtain rfl := Option.some.inj hr
    exact ⟨rfl, .inr (State.told_returned (State.fst_eq_alone calls) .ok)⟩

theorem resume_joining (calls : s.calls = [(id, .joining)]) (hr : s.resume? id = some s') :
    s.phase.IsOver ∧ s'.phase = s.phase ∧ s'.Told id .ok := by
  simp only [State.resume?, State.lookup_alone calls] at hr
  obtain ⟨hover, hs⟩ := Option.ite_none_right_eq_some.mp hr
  obtain rfl := Option.some.inj hs
  exact ⟨hover, rfl, State.told_returned (State.fst_eq_alone calls) .ok⟩

/-- The session has moved, and the call stands where it stood. -/
theorem moved {w : Nat} (hrem : s'.phase.remaining < s.phase.remaining ∨
      s'.phase = s.phase ∧ u ≠ .move s.phase.onward)
    (h : Stops id (s'.phase.remaining + w) t ms s') (hne : .session u ≠ t) :
    Stops id (s.phase.remaining + w) t ms s' ∧ .session u ≠ t ∨
      ∃ m < s.phase.remaining + w, ∃ t', Stops id m t' ms s' := by
  rcases hrem with hlt | ⟨hphase, -⟩
  · exact .inr ⟨_, by omega, _, h⟩
  · exact .inl ⟨hphase ▸ h, hne⟩

/-- A turn of the session, which has been told to stop. -/
theorem turn (h : Stops id n t ms s) (hc : s.cancelled = true) (hq : s.queue = [])
    (hp : s.phase ≠ .idle) (hcall : u.IsUncalled) (hu : s.turn? u = some s') :
    Stops id n t ms s' ∧ .session u ≠ t ∨ ∃ m < n, ∃ t', Stops id m t' ms s' := by
  have hrem := State.remaining_turn hc hq hp hu
  cases h with
  | called calls =>
    -- the session may take the step of the call itself
    rcases State.alone_turn calls hcall hu with hr | ⟨calls', -⟩
    · obtain ⟨hphase, calls' | told⟩ := resume_stopping calls hr
      · obtain ⟨t, h⟩ := of_joining calls'
        exact .inr ⟨_, by rw [hphase]; omega, t, h⟩
      · exact .inr ⟨_, by rw [hphase]; omega, _, .returned told⟩
    · exact moved hrem (.called calls') nofun
  | stopping calls =>
    rcases State.alone_turn calls hcall hu with hr | ⟨calls', -⟩
    · obtain ⟨hphase, calls' | told⟩ := resume_stopping calls hr
      · obtain ⟨m, hm, t, h⟩ := of_joining_due calls'
        exact .inr ⟨m, by rw [hphase] at hm; omega, t, h⟩
      · exact .inr ⟨_, by rw [hphase]; omega, _, .idle told⟩
    · exact moved hrem (.stopping calls') nofun
  | early calls working =>
    rcases State.alone_turn calls hcall hu with hr | ⟨calls', -⟩
    · exact absurd (resume_joining calls hr).1 working
    · by_cases hover : s'.phase.IsOver
      · have hle : s'.phase.remaining ≤ s.phase.remaining :=
          hrem.elim Nat.le_of_lt fun hsame => hsame.1 ▸ Nat.le_refl _
        exact .inr ⟨_, by omega, _, .joining calls' hover⟩
      · exact moved hrem (.early calls' hover) nofun
  | waiting calls working =>
    rcases State.alone_turn calls hcall hu with hr | ⟨calls', -⟩
    · exact absurd (resume_joining calls hr).1 working
    · obtain ⟨t, h⟩ := of_joining calls'
      -- the wait goes on only while the phase stays as it is
      rcases hrem with hlt | ⟨hphase, hne⟩
      · exact .inr ⟨_, by omega, t, h⟩
      · refine .inl ⟨hphase ▸ .waiting calls' (hphase.symm ▸ working), ?_⟩
        exact fun heq => hne (Turn.session.inj heq)
  | ready calls hover =>
    rcases State.alone_turn calls hcall hu with hr | ⟨calls', -⟩
    · obtain ⟨-, hphase, told⟩ := resume_joining calls hr
      exact .inr ⟨_, by rw [hphase]; omega, _, .returned told⟩
    · exact moved hrem (.ready calls' (State.over_turn hover hu)) nofun
  | joining calls hover =>
    rcases State.alone_turn calls hcall hu with hr | ⟨calls', -⟩
    · obtain ⟨-, hphase, told⟩ := resume_joining calls hr
      exact .inr ⟨_, by rw [hphase]; omega, _, .idle told⟩
    · exact moved hrem (.joining calls' (State.over_turn hover hu)) nofun
  | idle told => exact moved hrem (.idle (told.turn hcall hu)) nofun
  | returned told => exact moved hrem (.returned (told.turn hcall hu)) nofun

theorem due (h : Stops id n t (m :: ms) s) : m = .resume id ∧ ms = [] := by
  cases h <;> exact ⟨rfl, rfl⟩

/-- The command makes the move that it has decided on. -/
theorem make (h : Stops id n t [.resume id] s) :
    ∃ m < n, ∃ t', Stops id m t' [] (s.turn (.move (.resume id))) := by
  have hturn : s.turn (.move (.resume id)) = (s.resume? id).getD s := rfl
  rw [hturn]
  cases h with
  | stopping calls =>
    obtain ⟨s', hr⟩ : ∃ s', s.resume? id = some s' := by
      simp only [State.resume?, State.lookup_alone calls]
      split <;> exact ⟨_, rfl⟩
    rw [hr, Option.getD_some]
    obtain ⟨hphase, calls' | told⟩ := resume_stopping calls hr
    · obtain ⟨t, h⟩ := of_joining calls'
      exact ⟨_, by rw [hphase]; omega, t, h⟩
    · exact ⟨_, by rw [hphase]; omega, _, .returned told⟩
  | early calls working =>
    have hr : s.resume? id = none := by
      simp [State.resume?, State.lookup_alone calls, working]
    rw [hr, Option.getD_none]
    exact ⟨_, by omega, _, .waiting calls working⟩
  | joining calls hover =>
    obtain ⟨s', hr⟩ : ∃ s', s.resume? id = some s' := by
      simp [State.resume?, State.lookup_alone calls, hover]
    rw [hr, Option.getD_some]
    obtain ⟨-, hphase, told⟩ := resume_joining calls hr
    exact ⟨_, by rw [hphase]; omega, _, .returned told⟩
  | idle told =>
    have hr : s.resume? id = none := by simp [State.resume?, told.calls]
    rw [hr, Option.getD_none]
    exact ⟨_, by omega, _, .returned told⟩

/-- The command goes on with the call, or learns that it has returned. -/
theorem act {p : Program} {next : Reply → Program} {r : Program × List Move}
    (h : Stops id n t [] s) (hr : p.await s id next = some r) :
    r = (next .ok, []) ∨ r = (p, [.resume id]) ∧ ∃ m < n, ∃ t', Stops id m t' [.resume id] s := by
  unfold Program.await at hr
  cases h with
  | called calls =>
    simp only [State.lookup_alone calls] at hr
    obtain ⟨-, hr⟩ := Option.ite_none_right_eq_some.mp hr
    exact .inr ⟨(Option.some.inj hr).symm, _, by omega, _, .stopping calls⟩
  | waiting calls working =>
    simp [State.resume?, State.lookup_alone calls, working] at hr
  | ready calls hover =>
    simp only [State.lookup_alone calls] at hr
    obtain ⟨-, hr⟩ := Option.ite_none_right_eq_some.mp hr
    exact .inr ⟨(Option.some.inj hr).symm, _, by omega, _, .joining calls hover⟩
  | returned told =>
    have hl : s.calls.lookup id = none := by rw [told.calls, List.lookup_nil]
    simp only [hl, told.reply] at hr
    exact .inl (Option.some.inj hr).symm

theorem pos (h : Stops id n t ms s) : 0 < n := by
  cases h <;> exact Nat.succ_pos _

theorem suits (h : Stops id n t ms s) : t.Suits ms := by
  cases h with
  | waiting calls working =>
    rcases s.phase.onward_cases with heq | heq | heq <;> simp [heq, Turn.Suits, onward]
  | _ => simp [Turn.Suits, onward]

theorem possible (h : Stops id n (.session u) ms s) (hc : s.cancelled = true) (hq : s.queue = [])
    (hp : s.phase ≠ .idle) : (s.turn? u).isSome = true := by
  cases h with
  | waiting calls working => exact State.isSome_onward hc hq hp working

theorem acts {p : Program} {next : Reply → Program} (h : Stops id n .act [] s) :
    (p.await s id next).isSome = true := by
  unfold Program.await
  cases h with
  | called calls =>
    simp only [State.lookup_alone calls, State.resume?]
    split <;> rfl
  | ready calls hover => simp [State.lookup_alone calls, State.resume?, hover]
  | returned told =>
    have hl : s.calls.lookup id = none := by rw [told.calls, List.lookup_nil]
    simp [hl, told.reply]

end Stops

end AlarmKeypad.Cli.Dispatch
