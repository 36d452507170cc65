import AlarmKeypad.Proofs.Session.Fate
import AlarmKeypad.Session.Notice
/-!
# One caller

A keypad with one caller, who makes one call after the other. Between the calls the session and the
device do as they will, and the call that has been made takes its steps.
-/

namespace AlarmKeypad.Session

def Turn.IsUncalled (t : Turn) : Prop := ∀ r, t ≠ .move (.call r)

namespace State
variable {s s' : State} {t : Turn} {id i : Nat} {want : List Ticket}

/-- What a turn leaves as it was in which no call takes a step. -/
theorem aside_turn (hcall : t.IsUncalled) (hresume : ∀ i, t ≠ .move (.resume i))
    (ht : s.turn? t = some s') : s'.calls = s.calls ∧
      collect Event.queued? s'.history = collect Event.queued? s.history ∧
      ∀ id, replyOf id s'.history = replyOf id s.history := by
  have ha := advances_turn ht
  refine ⟨ha.calls hcall hresume, ha.adds.collect_eq fun e he => ?_,
    fun id => ha.adds.eq_of_cons fun e h he => ?_⟩
  · cases e with
    | queued x =>
      obtain ⟨⟨i, hi⟩, -⟩ := he
      exact absurd hi (hresume i)
    | _ => rfl
  · obtain ⟨time, e⟩ := e
    cases e with
    | returned i r =>
      rcases he with ⟨r, hr⟩ | ⟨i, hi⟩
      · exact absurd hr (hcall r)
      · exact absurd hi (hresume i)
    | _ => rfl

theorem Tracked.cancelled_iff (h : s.Tracked) : s.cancelled = true ↔ ToldIn s.history := by
  obtain ⟨q, ht, hs⟩ := h
  rw [hs.told, ht.told_iff]

/-- Shutdown comes with a call. -/
theorem Tracked.cancelled_turn (h : s.Tracked) (hcall : t.IsUncalled)
    (ht : s.turn? t = some s') : s'.cancelled = s.cancelled := by
  rw [Bool.eq_iff_iff, (h.turn ht).cancelled_iff, h.cancelled_iff]
  refine iff_of_eq ((advances_turn ht).adds.eq_of_cons fun e h he => propext ?_)
  rw [ToldIn, List.exists_mem_cons_iff]
  refine or_iff_right ?_
  rintro ⟨i, hi⟩
  rw [hi] at he
  obtain ⟨r, hr⟩ := he
  exact hcall r hr

/-- A session that is over stays so. -/
theorem over_turn (hp : s.phase.IsOver) (ht : s.turn? t = some s') : s'.phase.IsOver := by
  have hphase : s'.phase = s.phase := by
    refine (advances_turn ht).phase fun hl => ?_
    unfold Leaves at hl
    split at hl <;> grind [act?, pending?, Listens, Phase.IsOver]
  exact hphase ▸ hp

/-- Only a call counts up. -/
theorem callCount_turn (a : s.Accounted) (a' : s'.Accounted) (hcall : t.IsUncalled)
    (ht : s.turn? t = some s') : s'.callCount = s.callCount := by
  have hcalled : collect Event.called? s'.history = collect Event.called? s.history := by
    refine (advances_turn ht).adds.collect_eq fun e he => ?_
    cases e with
    | called i r =>
      obtain ⟨r, hr⟩ := he
      exact absurd hr (hcall r)
    | _ => rfl
  rw [a.counted, a'.counted] at hcalled
  simpa using congrArg List.length hcalled

theorem Tracked.ne_idle (h : s.Tracked) (hpub : s.published = .connected) : s.phase ≠ .idle := by
  intro hp
  obtain ⟨q, -, hs⟩ := h
  have fits := hs.fits
  rw [hp] at fits
  rw [hs.published, show q.stage = .away from fits] at hpub
  exact nomatch hpub

theorem begun_suffix_call (s : State) (token : String) :
    (s.begun (.command token)).history <:+ (s.call (.command token)).history := by
  rw [call_command]
  split
  · exact List.suffix_cons _ _
  · unfold offer
    split
    · exact List.suffix_refl _
    · exact List.suffix_cons _ _

/-- The lines of `want` have been queued, and no call has another one. -/
structure Quiet (want : List Ticket) (s : State) : Prop where
  queued : collect Event.queued? s.history = want
  lineless : ∀ p ∈ s.calls, p.2.line? = none

theorem Quiet.returned (h : Quiet want s) (id : Nat) (r : Reply) :
    Quiet want (s.returned id r) where
  queued := (List.append_nil _).trans h.queued
  lineless p hp := h.lineless p (List.mem_filter.mp hp).1

theorem Quiet.waiting (h : Quiet want s) {c : Call} (hc : c.line? = none) :
    Quiet want (s.waiting id c) where
  queued := h.queued
  lineless p hp := by
    rcases List.mem_cons.mp hp with rfl | hp
    · exact hc
    · exact h.lineless p (List.mem_filter.mp hp).1

theorem Quiet.begun (h : Quiet want s) (r : Request) : Quiet want (s.begun r) :=
  ⟨(List.append_nil _).trans h.queued, h.lineless⟩

theorem Quiet.call_shutdown (h : Quiet want s) : Quiet want (s.call .shutdown) := by
  have cancelled : Quiet want { s.begun .shutdown with cancelled := true } :=
    ⟨(h.begun _).queued, h.lineless⟩
  exact cancelled.waiting rfl

theorem Quiet.resume (h : Quiet want s) (hr : s.resume? id = some s') : Quiet want s' := by
  unfold resume? at hr
  split at hr
  · exact nomatch hr
  · split at hr
    · exact Option.some.inj hr ▸ h.returned _ _
    · split at hr
      · have spawned :
            Quiet want ({ s with phase := .starting, joinable := true }.record .spawned) :=
          ⟨(List.append_nil _).trans h.queued, h.lineless⟩
        exact Option.some.inj hr ▸ spawned.returned _ _
      · exact Option.some.inj hr ▸ h.returned _ _
  · split at hr
    · have taken : Quiet want { s with joinable := false } := ⟨h.queued, h.lineless⟩
      exact Option.some.inj hr ▸ taken.waiting rfl
    · exact Option.some.inj hr ▸ h.returned _ _
  · split at hr
    · exact Option.some.inj hr ▸ h.returned _ _
    · exact nomatch hr
  · rename_i hl
    exact nomatch h.lineless _ (mem_of_lookup hl)

theorem Quiet.turn (h : Quiet want s) (hcall : t.IsUncalled) (ht : s.turn? t = some s') :
    Quiet want s' := by
  by_cases hresume : ∃ i, t = .move (.resume i)
  · obtain ⟨i, rfl⟩ := hresume
    exact h.resume ht
  · obtain ⟨hcalls, hqueued, -⟩ := aside_turn hcall (not_exists.mp hresume) ht
    exact ⟨hqueued.trans h.queued, hcalls ▸ h.lineless⟩

/-- With no call left, no call takes a step. -/
theorem resume_ne_of_calls_nil (hc : s.calls = []) (ht : s.turn? t = some s') :
    ∀ i, t ≠ .move (.resume i) := by
  rintro i rfl
  simp [turn?, move?, resume?, hc] at ht

theorem calls_nil_turn (hc : s.calls = []) (hcall : t.IsUncalled) (ht : s.turn? t = some s') :
    s'.calls = [] :=
  (aside_turn hcall (resume_ne_of_calls_nil hc ht) ht).1.trans hc

/-- Only the call itself takes a step. -/
theorem eq_of_resume {c : Call} (hc : s.calls = [(id, c)]) (hr : s.resume? i = some s') :
    i = id := by
  by_contra hne
  have hl : s.calls.lookup i = none := by
    rw [hc, List.lookup_cons, beq_false_of_ne hne, List.lookup_nil]
  simp [resume?, hl] at hr

theorem lookup_alone {c : Call} (hc : s.calls = [(id, c)]) : s.calls.lookup id = some c := by
  rw [hc, List.lookup_cons_self]

theorem fst_eq_alone {c : Call} (hc : s.calls = [(id, c)]) : ∀ p ∈ s.calls, p.1 = id := by
  simp [hc]

/-- The call takes a step, or nothing happens to it. -/
theorem alone_turn {c : Call} (hc : s.calls = [(id, c)]) (hcall : t.IsUncalled)
    (ht : s.turn? t = some s') : s.resume? id = some s' ∨ s'.calls = [(id, c)] ∧
      collect Event.queued? s'.history = collect Event.queued? s.history := by
  by_cases hresume : ∃ i, t = .move (.resume i)
  · obtain ⟨i, rfl⟩ := hresume
    exact .inl (eq_of_resume hc ht ▸ ht)
  · obtain ⟨hcalls, hqueued, -⟩ := aside_turn hcall (not_exists.mp hresume) ht
    exact .inr ⟨hcalls.trans hc, hqueued⟩

/-- The only call has returned. -/
structure Told (id : Nat) (r : Reply) (s : State) : Prop where
  calls : s.calls = []
  reply : replyOf id s.history = some r

theorem Told.turn {r : Reply} (h : Told id r s) (hcall : t.IsUncalled) (ht : s.turn? t = some s') :
    Told id r s' := by
  obtain ⟨hcalls, -, hreply⟩ := aside_turn hcall (resume_ne_of_calls_nil h.calls ht) ht
  exact ⟨hcalls.trans h.calls, (hreply id).trans h.reply⟩

theorem told_returned (hc : ∀ p ∈ s.calls, p.1 = id) (r : Reply) : Told id r (s.returned id r) where
  calls := List.filter_eq_nil_iff.mpr fun p hp => by simp [hc p hp]
  reply := by simp [returned, record, replyOf]

/-- The only call is for connecting, and has returned or not. -/
def Connects (id : Nat) (s : State) : Prop := s.calls = [(id, .connecting)] ∨ s.calls = []

theorem Connects.turn (h : Connects id s) (hcall : t.IsUncalled) (ht : s.turn? t = some s') :
    Connects id s' := by
  rcases h with hc | hc
  · rcases alone_turn hc hcall ht with hr | ⟨hcalls, -⟩
    · refine .inr ?_
      unfold resume? at hr
      grind [returned, record]
    · exact .inl hcalls
  · exact .inr (calls_nil_turn hc hcall ht)

theorem Connects.eq_nil (h : Connects id s) (hl : s.calls.lookup id = none) : s.calls = [] :=
  h.resolve_left fun hc => nomatch hl.symm.trans (lookup_alone hc)

/-- The only call is for shutdown; once it has returned the session is over. -/
def Leaving (id : Nat) (s : State) : Prop :=
  s.calls = [(id, .stopping)] ∨ s.calls = [(id, .joining)] ∨ s.calls = [] ∧ s.phase.IsOver

theorem leaving_call (hc : s.calls = []) : Leaving s.callCount (s.call .shutdown) :=
  .inl (by simp [State.call, State.waiting, record, hc])

theorem Leaving.turn (h : Leaving id s) (held : s.Held) (hp : s.phase ≠ .idle)
    (hcall : t.IsUncalled) (ht : s.turn? t = some s') : Leaving id s' := by
  rcases h with hc | hc | ⟨hc, hover⟩
  · rcases alone_turn hc hcall ht with hr | ⟨hcalls, -⟩
    · simp only [resume?, lookup_alone hc] at hr
      split at hr
      · obtain rfl := Option.some.inj hr
        exact .inr (.inl (by simp [State.waiting, hc]))
      · rename_i hj
        obtain rfl := Option.some.inj hr
        refine .inr (.inr ⟨(told_returned (fst_eq_alone hc) .ok).calls, ?_⟩)
        -- no other call has hold of the session
        rcases held.joining (eq_false_of_ne_true hj) with hidle | hover | ⟨i, hl⟩
        · exact absurd hidle hp
        · exact hover
        · have hmem : (i, Call.joining) ∈ [(id, Call.stopping)] := hc ▸ mem_of_lookup hl
          simp at hmem
    · exact .inl hcalls
  · rcases alone_turn hc hcall ht with hr | ⟨hcalls, -⟩
    · simp only [resume?, lookup_alone hc] at hr
      obtain ⟨hover, hs⟩ := Option.ite_none_right_eq_some.mp hr
      obtain rfl := Option.some.inj hs
      exact .inr (.inr ⟨(told_returned (fst_eq_alone hc) .ok).calls, hover⟩)
    · exact .inr (.inl hcalls)
  · exact .inr (.inr ⟨calls_nil_turn hc hcall ht, over_turn hover ht⟩)

theorem Leaving.over (h : Leaving id s) (hl : s.calls.lookup id = none) : s.phase.IsOver := by
  rcases h with hc | hc | ⟨-, hover⟩
  · exact nomatch hl.symm.trans (lookup_alone hc)
  · exact nomatch hl.symm.trans (lookup_alone hc)
  · exact hover

/-- The only call has a line for the queue. -/
theorem queueing_turn {line : String} (hc : s.calls = [(id, .queueing line)])
    (hcall : t.IsUncalled) (ht : s.turn? t = some s') :
    (s'.calls = [(id, .queueing line)] ∧
      collect Event.queued? s'.history = collect Event.queued? s.history) ∨
    (∃ f, Told id (.failed f) s' ∧
      collect Event.queued? s'.history = collect Event.queued? s.history) ∨
    Told id .ok s' ∧ ⟨id, line⟩ ∈ s'.queue ∧
      collect Event.queued? s'.history = collect Event.queued? s.history ++ [⟨id, line⟩] := by
  rcases alone_turn hc hcall ht with hr | hsame
  · simp only [resume?, lookup_alone hc] at hr
    split at hr
    · obtain rfl := Option.some.inj hr
      exact .inr (.inl ⟨_, told_returned (fst_eq_alone hc) _, List.append_nil _⟩)
    · obtain ⟨-, hs⟩ := Option.ite_none_right_eq_some.mp hr
      obtain rfl := Option.some.inj hs
      refine .inr (.inr ⟨?_, List.mem_append_right _ List.mem_cons_self, List.append_nil _⟩)
      refine told_returned ?_ .ok
      exact fst_eq_alone hc
  · exact .inl hsame

end State
end AlarmKeypad.Session
