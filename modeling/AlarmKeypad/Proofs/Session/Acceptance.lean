import AlarmKeypad.Proofs.Session.Advance
import AlarmKeypad.Proofs.Session.Queue

namespace AlarmKeypad.Session

def Call.line? : Call → Option String
  | .queueing line => some line
  | _ => none

def Event.ok? : Event → Option Nat
  | .returned id .ok => some id
  | _ => none

/-- What the calls are for that have not returned, and what those have done that returned ok. -/
structure Answers (k : KeypadSettings) (calls : List (Nat × Call)) (h : List Stamped) : Prop where
  serves : ∀ p ∈ calls, ∀ r, Has h (.called p.1 r) → p.2.line? = r.line? k
  queued : ∀ t id past r line, ⟨t, .returned id .ok⟩ :: past <:+ h → Has past (.called id r) →
    r.line? k = some line → ∃ t' rest, past = ⟨t', .queued ⟨id, line⟩⟩ :: rest

namespace Answers

variable {k : KeypadSettings} {calls : List (Nat × Call)} {n id : Nat} {h h' : List Stamped}

/-- Any event but that of a call that is made or returns ok. -/
theorem record (a : Answers k calls h) {e : Stamped} (hc : e.event.called? = none)
    (ho : e.event.ok? = none) : Answers k calls (e :: h) where
  serves p hp r hh := by
    rcases has_cons.mp hh with heq | hh
    · exact nomatch (congrArg Event.called? heq).trans hc
    · exact a.serves p hp r hh
  queued t id past r line hs := by
    rcases List.suffix_cons_iff.mp hs with heq | hs
    · obtain ⟨rfl, -⟩ := List.cons.inj heq
      exact nomatch ho
    · exact a.queued t id past r line hs

theorem of_adds {P : Event → Prop} (a : Answers k calls h) (ha : Adds P h h')
    (hP : ∀ e, P e → e.called? = none ∧ e.ok? = none) : Answers k calls h' := by
  induction ha with
  | refl => exact a
  | cons e _ he ih => exact ih.record (hP _ he).1 (hP _ he).2

/-- A call is over. -/
theorem done (a : Answers k calls h) (id : Nat) : Answers k (calls.filter (·.1 ≠ id)) h :=
  ⟨fun p hp => a.serves p (List.mem_filter.mp hp).1, a.queued⟩

theorem wait (a : Answers k calls h) {c : Call}
    (hc : ∀ r, Has h (.called id r) → c.line? = r.line? k) :
    Answers k ((id, c) :: calls.filter (·.1 ≠ id)) h where
  serves p hp := by
    rcases List.mem_cons.mp hp with rfl | hp
    · exact hc
    · exact (a.done id).serves p hp
  queued := a.queued

/-- A new call. -/
theorem more (a : Answers k calls h) (hlt : ∀ p ∈ calls, p.1 < n) (t : Nat) (r : Request) :
    Answers k calls (⟨t, .called n r⟩ :: h) where
  serves p hp r' hh := by
    rcases has_cons.mp hh with heq | hh
    · exact absurd (Event.called.inj heq).1 (Nat.ne_of_lt (hlt p hp))
    · exact a.serves p hp r' hh
  queued t' id past r' line hs := by
    rcases List.suffix_cons_iff.mp hs with heq | hs
    · exact nomatch (Stamped.mk.inj (List.cons.inj heq).1).2
    · exact a.queued t' id past r' line hs

/-- A call returns ok: it had no line to queue, or has just done so. -/
theorem ok (a : Answers k calls h) (t : Nat)
    (hq : ∀ r line, Has h (.called id r) → r.line? k = some line →
      ∃ t' rest, h = ⟨t', .queued ⟨id, line⟩⟩ :: rest) :
    Answers k (calls.filter (·.1 ≠ id)) (⟨t, .returned id .ok⟩ :: h) where
  serves p hp r hh := by
    rcases has_cons.mp hh with heq | hh
    · exact nomatch heq
    · exact (a.done id).serves p hp r hh
  queued t' i past r line hs := by
    rcases List.suffix_cons_iff.mp hs with heq | hs
    · obtain ⟨hev, rfl⟩ := List.cons.inj heq
      obtain ⟨rfl, -⟩ := Event.returned.inj (Stamped.mk.inj hev).2
      exact hq r line
    · exact a.queued t' i past r line hs

end Answers

namespace State

variable {s s' : State} {id : Nat}

def Answered (s : State) : Prop := Answers s.settings s.calls s.history

theorem Answered.failed (a : s.Answered) (id : Nat) (f : KeypadFault) :
    (s.returned id (.failed f)).Answered :=
  Answers.record (a.done id) rfl rfl

theorem Answered.begun (a : s.Answered) (acc : s.Accounted) (r : Request) :
    (s.begun r).Answered :=
  Answers.more a acc.calls_lt s.now r

/-- The request of a call that has just begun. -/
theorem eq_of_has_begun (acc : s.Accounted) {r r' : Request}
    (h : Has (s.begun r).history (.called s.callCount r')) : r' = r := by
  rcases has_cons.mp h with heq | h
  · exact (Event.called.inj heq).2
  · obtain ⟨e, he, heq⟩ := List.mem_map.mp h
    exact absurd (acc.events_lt e he s.callCount (by rw [heq]; rfl)) (Nat.lt_irrefl _)

theorem Answered.call (a : s.Answered) (acc : s.Accounted) (r : Request) :
    (s.call r).Answered := by
  have waits : ∀ c : Call, c.line? = r.line? s.settings →
      ((s.begun r).waiting s.callCount c).Answered := fun c hc =>
    Answers.wait (a.begun acc r) fun r' hr => by
      rw [eq_of_has_begun acc hr]
      exact hc
  have offers : ∀ line, r.line? s.settings = some line →
      ((s.begun r).offer s.callCount line).Answered := by
    intro line hline
    unfold offer
    split
    · exact waits (.queueing line) hline.symm
    · exact (a.begun acc r).failed _ _
  cases r with
  | connect =>
    rw [call_connect]
    split
    · exact (a.begun acc _).failed _ _
    · exact waits .connecting rfl
  | shutdown => exact waits .stopping rfl
  | command token =>
    rw [call_command]
    split
    · rename_i htoken
      refine Answers.ok (a.begun acc _) _ fun r line hr hline => ?_
      rw [eq_of_has_begun acc hr] at hline
      simp [Request.line?, htoken] at hline
    · rename_i htoken
      exact offers _ (if_neg htoken)
  | sync => exact offers _ rfl

/-- A call that has no line to queue returns ok. -/
theorem Answered.ok (a : s.Answered) {c : Call} (hl : s.calls.lookup id = some c)
    (hc : c.line? = none) : (s.returned id .ok).Answered := by
  refine Answers.ok a s.now fun r line hr hline => ?_
  have hserves := a.serves _ (mem_of_lookup hl) r hr
  exact nomatch (hserves.symm.trans hc).symm.trans hline

theorem Answered.resume (a : s.Answered) (hr : s.resume? id = some s') : s'.Answered := by
  unfold resume? at hr
  split at hr
  · exact nomatch hr
  all_goals rename_i hl
  · split at hr
    · exact Option.some.inj hr ▸ a.ok hl rfl
    · split at hr
      · have spawned : ({ s with phase := .starting, joinable := true }.record
            .spawned).Answered := Answers.record a rfl rfl
        exact Option.some.inj hr ▸ spawned.ok hl rfl
      · exact Option.some.inj hr ▸ a.failed _ _
  · split at hr
    · exact Option.some.inj hr ▸ Answers.wait a (a.serves _ (mem_of_lookup hl))
    · exact Option.some.inj hr ▸ a.ok hl rfl
  · split at hr
    · exact Option.some.inj hr ▸ a.ok hl rfl
    · exact nomatch hr
  · split at hr
    · exact Option.some.inj hr ▸ a.failed _ _
    · split at hr
      · rename_i line _ _
        obtain rfl := Option.some.inj hr
        have queued : Answers s.settings s.calls (⟨s.now, .queued ⟨id, line⟩⟩ :: s.history) :=
          Answers.record a rfl rfl
        refine Answers.ok queued s.now fun r line' hh hline => ?_
        have hcalled : Has s.history (.called id r) := (has_cons.mp hh).resolve_left nofun
        -- the line of the request is the one that has waited
        obtain rfl : line = line' :=
          Option.some.inj ((a.serves _ (mem_of_lookup hl) r hcalled).trans hline)
        exact ⟨_, _, rfl⟩
      · exact nomatch hr

theorem Answered.turn (a : s.Answered) (acc : s.Accounted) {t : Turn}
    (ht : s.turn? t = some s') : s'.Answered := by
  by_cases hcall : ∃ r, t = .move (.call r)
  · obtain ⟨r, rfl⟩ := hcall
    exact Option.some.inj ht ▸ a.call acc r
  by_cases hresume : ∃ id, t = .move (.resume id)
  · obtain ⟨id, rfl⟩ := hresume
    exact a.resume ht
  -- no call has a part in any other turn
  have ha := advances_turn ht
  rw [Answered, settings_turn ht, ha.calls (not_exists.mp hcall) (not_exists.mp hresume)]
  refine Answers.of_adds a ha.adds fun e he => ?_
  cases e with
  | called i r => exact absurd he hcall
  | returned i r => exact absurd he (not_or.mpr ⟨hcall, hresume⟩)
  | _ => exact ⟨rfl, rfl⟩

end State

variable {k : KeypadSettings} {h : List Stamped} {q : Track} {c : Nat}

theorem Has.mono {past : List Stamped} {e : Event} (hh : Has past e) (hs : past <:+ h) :
    Has h e :=
  (hs.map Stamped.event).mem hh

end AlarmKeypad.Session
