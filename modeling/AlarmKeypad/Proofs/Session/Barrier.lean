import AlarmKeypad.Proofs.Session.Handle
import AlarmKeypad.Proofs.Session.Retirement

namespace AlarmKeypad.Session

theorem Adds.notices_eq {P : Event → Prop} {h h' : List Stamped} (ha : Adds P h h')
    (hP : ∀ e, P e → Notice.ofEvent? e = none) : notices h' = notices h :=
  ha.eq_of_cons fun e h he => by simp [notices, hP _ he]

structure View where
  published : ConnectionState
  /-- What subscribers have heard of. -/
  heard : List (Nat × Notice)
  /-- What has been handed to its connections. -/
  handed : List Handover
deriving DecidableEq

/-- Phases in which a session that has been told to stop has nothing left to do. -/
def Phase.IsSpent : Phase → Prop
  | .parted | .resting _ | .finished => True
  | _ => False

namespace State

variable {s s' : State} {id : Nat}

def view (s : State) : View :=
  ⟨s.published, notices s.history, collect Event.handover? s.history⟩

/-- The keypad is disconnected, and nothing is seen of it any more, whatever happens. -/
def IsSilent (s : State) : Prop := s.published = .disconnected ∧ ∀ us, (s.run us).view = s.view

/-- No call is about to start the session. -/
def NoneConnecting (s : State) : Prop := ∀ id, s.calls.lookup id ≠ some .connecting

/-- The session has nothing left to do, or has not been started and will not be. -/
def AtRest (s : State) : Prop := s.phase.IsSpent ∨ s.phase = .idle ∧ s.NoneConnecting

/-! ## Rest is silent -/

/-- Without a session at work nothing that is seen may happen. -/
theorem unseen_of_allows (hr : s.phase.IsSpent ∨ s.phase = .idle) {t : Turn} {e : Event}
    (he : s.Allows t e) : Notice.ofEvent? e = none ∧ e.handover? = none := by
  have hphase : s.phase = .idle ∨ s.phase = .parted ∨ (∃ d, s.phase = .resting d) ∨
      s.phase = .finished := by
    cases hp : s.phase <;> simp_all [Phase.IsSpent]
  have hlistens : ¬s.Listens := by
    rintro ⟨⟨d, hd⟩, -⟩
    simp [hd] at hphase
  cases e with
  | published c =>
    refine absurd he ?_
    cases c <;> rcases hphase with hp | hp | ⟨d, hp⟩ | hp <;> simp [Allows, hp]
  | modeChanged c => exact absurd he hlistens
  | handed c source line | handFailed c source line =>
    have hpending := he.2.2
    rcases hphase with hp | hp | ⟨d, hp⟩ | hp <;> simp [pending?, hp] at hpending
  | _ => exact ⟨rfl, rfl⟩

theorem view_turn (hr : s.phase.IsSpent ∨ s.phase = .idle) {t : Turn}
    (ht : s.turn? t = some s') : s'.view = s.view := by
  have ha := (advances_turn ht).adds
  have hsame : collect Event.published? s'.history = collect Event.published? s.history := by
    refine ha.collect_eq fun e he => ?_
    have hnotice := (unseen_of_allows hr he).1
    cases e with
    | published c => exact nomatch hnotice
    | _ => rfl
  have hpublished : s'.published = s.published := by
    have hp : s.Publishes s' := turn_eq ht ▸ s.publishes_turn t
    rw [hp] at hsame
    by_contra hne
    simp [hne] at hsame
  rw [view, view, hpublished, ha.notices_eq fun e he => (unseen_of_allows hr he).1,
    ha.collect_eq fun e he => (unseen_of_allows hr he).2]

/-! ## Calls between their steps -/

theorem NoneConnecting.call (h : s.NoneConnecting) (hc : s.cancelled = true) (r : Request) :
    (s.call r).NoneConnecting := by
  have hbegun : (s.begun r).NoneConnecting := h
  intro id
  cases r with
  | connect => grind [call_connect, lookup_returned, NoneConnecting]
  | shutdown => grind [call_shutdown, lookup_waiting, NoneConnecting]
  | command token => grind [call_command, offer, lookup_returned, lookup_waiting, NoneConnecting]
  | sync => grind [call_sync, offer, lookup_returned, lookup_waiting, NoneConnecting]

theorem NoneConnecting.resume (h : s.NoneConnecting) (hr : s.resume? id = some s') :
    s'.NoneConnecting := by
  intro i
  unfold resume? at hr
  split at hr <;> grind [record, lookup_returned, lookup_waiting, NoneConnecting]

/-! ## Rest stays -/

theorem isSpent_iff (p : Phase) : p.IsSpent ↔ ∃ n ≤ 1, p.retreat? = some n := by
  cases p <;> simp [Phase.IsSpent, Phase.retreat?]

theorem NoneConnecting.turn (h : s.NoneConnecting) (hc : s.cancelled = true) {t : Turn}
    (ht : s.turn? t = some s') : s'.NoneConnecting := by
  by_cases hcall : ∃ r, t = .move (.call r)
  · obtain ⟨r, rfl⟩ := hcall
    exact Option.some.inj ht ▸ h.call hc r
  by_cases hresume : ∃ id, t = .move (.resume id)
  · obtain ⟨id, rfl⟩ := hresume
    exact h.resume ht
  have hsame := (advances_turn ht).calls (not_exists.mp hcall) (not_exists.mp hresume)
  intro id
  rw [hsame]
  exact h id

/-- Without a call that is about to start it the session is not started. -/
theorem idle_turn (hp : s.phase = .idle) (hn : s.NoneConnecting) {t : Turn}
    (ht : s.turn? t = some s') : s'.phase = .idle := by
  by_cases hresume : ∃ id, t = .move (.resume id)
  · obtain ⟨id, rfl⟩ := hresume
    change s.resume? id = some s' at ht
    unfold resume? at ht
    split at ht
    case h_2 hl => exact absurd hl (hn id)
    all_goals grind [record, returned, waiting]
  · exact ((advances_turn ht).phase fun hl => hresume (resume_of_leaves hp hl)).trans hp

theorem AtRest.turn (h : s.AtRest) (hc : s.cancelled = true) {t : Turn}
    (ht : s.turn? t = some s') : s'.AtRest := by
  rcases h with h | ⟨hp, hn⟩
  · obtain ⟨n, hn, hr⟩ := (isSpent_iff _).mp h
    have hr' : s'.phase.retreat? = some (n - [t].count (.move .act)) :=
      turn_eq ht ▸ retreat_run hc hr [t]
    exact .inl ((isSpent_iff _).mpr ⟨_, Nat.le_trans (Nat.sub_le _ _) hn, hr'⟩)
  · exact .inr ⟨idle_turn hp hn ht, hn.turn hc ht⟩

theorem AtRest.view_run (h : s.AtRest) (hc : s.cancelled = true) (us : List Turn) :
    (s.run us).view = s.view := by
  refine (run_induction (P := fun u => u.cancelled = true ∧ u.AtRest ∧ u.view = s.view) ?_
    ⟨hc, h, rfl⟩ us).2.2
  intro u t u' ⟨hu, hrest, hview⟩ ht
  exact ⟨(advances_turn ht).told hu, hrest.turn hu ht,
    (view_turn (hrest.imp_right And.left) ht).trans hview⟩

/-- What is published at rest. -/
theorem AtRest.published (h : s.AtRest) (ht : s.Tracked) : s.published = .disconnected := by
  obtain ⟨q, -, hs⟩ := ht
  have fits := hs.fits
  have hstage : q.stage = .away := by
    rcases h with h | ⟨hp, -⟩
    · cases hp : s.phase <;> simp_all [Phase.IsSpent, Phase.Fits]
    · simpa [hp, Phase.Fits] using fits
  rw [hs.published, hstage]
  rfl

theorem AtRest.isSilent (h : s.AtRest) (hc : s.cancelled = true) (ht : s.Tracked) : s.IsSilent :=
  ⟨h.published ht, h.view_run hc⟩

/-! ## Nothing else is silent -/

end State

/-- Shutdown is called on a connected keypad. -/
def stopped : List Turn := Turn.begins ++ [.move (.call .shutdown), .move (.resume 1)]

/-- The session closes its connection and ends. -/
def ended : List Turn :=
  stopped ++ List.replicate 3 (.move .act) ++ [.move .closed] ++ List.replicate 2 (.move .act)

end AlarmKeypad.Session
