import AlarmKeypad.Proofs.Session.History
/-!
# The round of a session

A session goes round: an attempt to connect, a connection, a delay. Its milestones on the way, which
of them comes after which, and when: so attempts keep their distance, however each of them ends.
-/

namespace AlarmKeypad.Session

namespace Event

/-- What an attempt to connect goes through, from its beginning to the delay before the next. -/
def isMilestone : Event → Bool
  | .spawned | .published _ | .attempted _ | .refused | .handFailed .. | .faulted _ | .hungUp _
  | .closing _ => true
  | _ => false

/-- What comes next. -/
inductive Leads : Event → Event → Prop
  | dial : Leads .spawned (.published .connecting)
  | attempt (n) : Leads (.published .connecting) (.attempted n)
  | refuse (n) : Leads (.attempted n) .refused
  | connect (n) : Leads (.attempted n) (.published .connected)
  | hangUp (c) : Leads (.published .connected) (.hungUp c)
  | fail {c e} (h : e.Breaks c) : Leads (.published .connected) e
  | abandon {c e} (h : e.Breaks c) : Leads e (.published .closing)
  | close (c) : Leads (.published .closing) (.closing c)
  | giveUp : Leads .refused (.published .disconnected)
  | part (c) : Leads (.hungUp c) (.published .disconnected)
  | leave (c) : Leads (.closing c) (.published .disconnected)
  | retry : Leads (.published .disconnected) (.published .connecting)

def isAttempt : Event → Bool
  | .attempted _ => true
  | _ => false

theorem isMilestone_of_isAttempt {e : Event} (h : e.isAttempt = true) : e.isMilestone = true := by
  cases e <;> first | rfl | exact nomatch h

theorem Breaks.isMilestone {c : Nat} {e : Event} (h : e.Breaks c) : e.isMilestone = true := by
  cases e <;> first | rfl | exact h.elim

end Event

def milestones (h : List Stamped) : List Stamped := h.filter (·.event.isMilestone)

section
variable (delay : Nat) (F : List (Nat × Nat))

/-- When the milestone after this one is due, unless it is for the device to say: at once, after the
delay between attempts, or when the connection has closed. `F` tells when closing has finished. -/
def Stamped.due? (e : Stamped) : Option Nat :=
  match e.event with
  | .attempted _ | .published .connected => none
  | .published .disconnected => some (e.time + delay)
  | .closing c => some (min (e.time + closeTimeout) ((F.lookup c).getD (e.time + closeTimeout)))
  | _ => some e.time

/-- A milestone that comes after another, and in time. -/
structure Stamped.Comes (e' e : Stamped) : Prop where
  leads : e.event.Leads e'.event
  later : e.time ≤ e'.time
  due : ∀ t ∈ e.due? delay F, e'.time = t

/-- Milestones from the start of a session on, each in time. -/
inductive Timely : List Stamped → Prop
  | nil : Timely []
  | spawned (t : Nat) : Timely [⟨t, .spawned⟩]
  | next {e e' : Stamped} {l : List Stamped} (past : Timely (e :: l)) (h : e'.Comes delay F e) :
      Timely (e' :: e :: l)

end

variable {delay : Nat} {F : List (Nat × Nat)}

theorem Timely.cons {l : List Stamped} {e e' : Stamped} (h : Timely delay F l)
    (hl : l.head? = some e) (hc : e'.Comes delay F e) : Timely delay F (e' :: l) := by
  obtain ⟨l, rfl⟩ := List.head?_eq_some_iff.mp hl
  exact h.next hc

/-- What has come in time stays in time when a later connection has closed. -/
theorem Stamped.Comes.concat {c t : Nat} {e e' : Stamped} (h : e'.Comes delay F e)
    (ht : e'.time ≤ t) : e'.Comes delay (F ++ [(c, t)]) e := by
  obtain ⟨hleads, hlater, hdue⟩ := h
  refine ⟨hleads, hlater, ?_⟩
  obtain ⟨time, event⟩ := e
  obtain ⟨time', event'⟩ := e'
  cases hleads with
  | leave d =>
    have hd : time' = min (time + closeTimeout) ((F.lookup d).getD (time + closeTimeout)) :=
      hdue _ rfl
    have hle : time' ≤ time + closeTimeout := Nat.le_trans (Nat.le_of_eq hd) (Nat.min_le_left _ _)
    intro u hu
    obtain rfl := Option.some.inj hu
    change time' = _
    rw [List.lookup_append]
    cases hl : F.lookup d with
    | some f => rw [hd, hl]; rfl
    | none =>
      -- it was left to the timer, and what has closed now has closed no earlier
      rw [hl, Option.getD_none, Nat.min_self] at hd
      rw [Option.none_or, List.lookup_cons]
      split
      · rw [Option.getD_some, hd, Nat.min_eq_left (hd ▸ ht)]
      · rw [List.lookup_nil, Option.getD_none, Nat.min_self, hd]
  | abandon hb => cases event <;> first | exact hb.elim | exact hdue
  | _ => exact hdue

theorem Timely.concat {c t : Nat} {l : List Stamped} (h : Timely delay F l)
    (ht : ∀ e ∈ l, e.time ≤ t) : Timely delay (F ++ [(c, t)]) l := by
  induction h with
  | nil => exact .nil
  | spawned t => exact .spawned t
  | next _ hc ih =>
    obtain ⟨hle, ht⟩ := List.forall_mem_cons.mp ht
    exact (ih ht).next (hc.concat hle)

/-- The times of the events of a kind, the first in front. -/
def timesOf (p : Event → Bool) : List Stamped → List Nat
  | [] => []
  | e :: h => timesOf p h ++ if p e.event then [e.time] else []

theorem timesOf_milestones {p : Event → Bool} (hp : ∀ e, p e = true → e.isMilestone = true)
    (h : List Stamped) : timesOf p (milestones h) = timesOf p h := by
  induction h with
  | nil => rfl
  | cons e h ih =>
    rw [milestones, List.filter_cons]
    split
    · exact congrArg (· ++ _) ih
    · rename_i hm
      rw [timesOf, if_neg fun he => hm (hp _ he), List.append_nil]
      exact ih

/-- When attempts are to be made: as the session starts, and one delay after the keypad has been
disconnected, each time. -/
def attemptsDue (delay : Nat) (h : List Stamped) : List Nat :=
  timesOf (· = .spawned) h ++ (timesOf (· = .published .disconnected) h).map (· + delay)

theorem attemptsDue_milestones (h : List Stamped) :
    attemptsDue delay (milestones h) = attemptsDue delay h := by
  have hp {x : Event} (hx : x.isMilestone = true) (e : Event) (he : decide (e = x) = true) :
      e.isMilestone = true := of_decide_eq_true he ▸ hx
  unfold attemptsDue
  rw [timesOf_milestones (hp rfl), timesOf_milestones (hp rfl)]

/-- The time of the next attempt, where only time is left to wait for. -/
def Stamped.nextAttempt? (delay : Nat) (e : Stamped) : Option Nat :=
  match e.event with
  | .spawned | .published .connecting => some e.time
  | .published .disconnected => some (e.time + delay)
  | _ => none

theorem Stamped.due_of_nextAttempt {e : Stamped} {t : Nat} (h : e.nextAttempt? delay = some t) :
    e.due? delay F = some t := by
  obtain ⟨time, event⟩ := e
  cases event with
  | spawned => exact h
  | published c => cases c <;> first | exact h | exact nomatch h
  | _ => exact nomatch h

/-- The attempts up to a milestone `e`: those that were to be made, but for the next, and each at
least one delay after those before it. -/
structure Rounds (delay : Nat) (e : Stamped) (l : List Stamped) : Prop where
  attempts : timesOf Event.isAttempt l ++ (e.nextAttempt? delay).toList = attemptsDue delay l
  spread : (attemptsDue delay l).Pairwise (· + delay ≤ ·)
  past : ∀ a ∈ timesOf Event.isAttempt l, a ≤ e.time

namespace Rounds

variable {e e' : Stamped} {l : List Stamped} {t : Nat}

theorem spawned (delay t : Nat) : Rounds delay ⟨t, .spawned⟩ [⟨t, .spawned⟩] :=
  ⟨rfl, List.pairwise_singleton _ _, fun _ ha => nomatch ha⟩

theorem attempt (h : Rounds delay e l) (he : e.nextAttempt? delay = some t) (ht : e.time ≤ t)
    (n : Nat) : Rounds delay ⟨t, .attempted n⟩ (⟨t, .attempted n⟩ :: l) := by
  obtain ⟨attempts, spread, past⟩ := h
  rw [he] at attempts
  have hdue : attemptsDue delay (⟨t, .attempted n⟩ :: l) = attemptsDue delay l := by
    simp [attemptsDue, timesOf]
  refine ⟨?_, hdue.symm ▸ spread, fun a ha => ?_⟩
  · rw [hdue, ← attempts]
    exact List.append_nil _
  · rcases List.mem_append.mp ha with ha | ha
    · exact Nat.le_trans (past a ha) ht
    · exact Nat.le_of_eq (List.mem_singleton.mp ha)

/-- The next attempt is to be made one delay later. -/
theorem part (h : Rounds delay e l) (he : e.nextAttempt? delay = none) (ht : e.time ≤ t) :
    Rounds delay ⟨t, .published .disconnected⟩ (⟨t, .published .disconnected⟩ :: l) := by
  obtain ⟨attempts, spread, past⟩ := h
  rw [he, Option.toList_none, List.append_nil] at attempts
  have hdue : attemptsDue delay (⟨t, .published .disconnected⟩ :: l) =
      timesOf Event.isAttempt l ++ [t + delay] := by
    simp [attempts, attemptsDue, timesOf]
  have hattempts : timesOf Event.isAttempt (⟨t, .published .disconnected⟩ :: l) =
      timesOf Event.isAttempt l := List.append_nil _
  have hpast : ∀ a ∈ timesOf Event.isAttempt l, a ≤ t := fun a ha => Nat.le_trans (past a ha) ht
  refine ⟨?_, ?_, ?_⟩
  · rw [hdue, hattempts]
    rfl
  · rw [hdue]
    apply List.pairwise_append.mpr
    refine ⟨attempts.symm ▸ spread, List.pairwise_singleton _ _, fun a ha b hb => ?_⟩
    obtain rfl := List.mem_singleton.mp hb
    exact Nat.add_le_add_right (hpast a ha) delay
  · rw [hattempts]
    exact hpast

/-- Any other milestone leaves the next attempt as it is. -/
theorem pass (h : Rounds delay e l) (he : e'.event ≠ .spawned ∧
      e'.event ≠ .published .disconnected ∧ e'.event.isAttempt = false)
    (hnext : e'.nextAttempt? delay = e.nextAttempt? delay) (ht : e.time ≤ e'.time) :
    Rounds delay e' (e' :: l) := by
  obtain ⟨attempts, spread, past⟩ := h
  obtain ⟨hspawned, hparted, hattempt⟩ := he
  have hdue : attemptsDue delay (e' :: l) = attemptsDue delay l := by
    simp [attemptsDue, timesOf, hspawned, hparted]
  have hattempts : timesOf Event.isAttempt (e' :: l) = timesOf Event.isAttempt l := by
    simp [timesOf, hattempt]
  refine ⟨?_, hdue.symm ▸ spread, fun a ha => ?_⟩
  · rw [hdue, hattempts, hnext, attempts]
  · exact Nat.le_trans (past a (hattempts ▸ ha)) ht

/-- One milestone further. -/
theorem next (h : Rounds delay e l) (hc : e'.Comes delay F e) : Rounds delay e' (e' :: l) := by
  obtain ⟨hleads, hlater, hdue⟩ := hc
  obtain ⟨time, event⟩ := e
  obtain ⟨time', event'⟩ := e'
  cases hleads with
  | dial =>
    obtain rfl : time' = time := hdue _ rfl
    exact h.pass ⟨nofun, nofun, rfl⟩ rfl hlater
  | attempt n =>
    obtain rfl : time' = time := hdue _ rfl
    exact h.attempt rfl hlater n
  | retry =>
    obtain rfl : time' = time + delay := hdue _ rfl
    exact h.pass ⟨nofun, nofun, rfl⟩ rfl hlater
  | giveUp | part | leave => exact h.part rfl hlater
  | fail hb =>
    cases event' with
    | faulted | handFailed => exact h.pass ⟨nofun, nofun, rfl⟩ rfl hlater
    | _ => exact hb.elim
  | abandon hb =>
    cases event with
    | faulted | handFailed => exact h.pass ⟨nofun, nofun, rfl⟩ rfl hlater
    | _ => exact hb.elim
  | refuse | connect | hangUp | close => exact h.pass ⟨nofun, nofun, rfl⟩ rfl hlater

end Rounds

theorem Timely.rounds {e : Stamped} {l : List Stamped} (h : Timely delay F (e :: l)) :
    Rounds delay e (e :: l) := by
  generalize hm : e :: l = m at h
  induction h generalizing e l with
  | nil => exact nomatch hm
  | spawned t =>
    obtain ⟨rfl, rfl⟩ := List.cons.inj hm
    exact .spawned delay t
  | next _ hc ih =>
    obtain ⟨rfl, rfl⟩ := List.cons.inj hm
    exact (ih rfl).next hc

/-- Times that keep their distance are few in any span. -/
theorem length_le_of_spread {l : List Nat} {a b : Nat} (hl : l.Pairwise (· + delay ≤ ·))
    (hab : ∀ t ∈ l, a ≤ t ∧ t ≤ b) : l.length * delay ≤ b - a + delay := by
  induction l generalizing a with
  | nil => simp
  | cons x l ih =>
    obtain ⟨hx, hl⟩ := List.pairwise_cons.mp hl
    obtain ⟨⟨hax, hxb⟩, hab⟩ := List.forall_mem_cons.mp hab
    rw [List.length_cons, Nat.add_mul, Nat.one_mul]
    apply Nat.add_le_add_right
    cases l with
    | nil => simp
    | cons y l =>
      have hrest := ih hl fun t ht => ⟨hx t ht, (hab t ht).2⟩
      have hxy : x + delay ≤ y := hx y List.mem_cons_self
      have hyb : y ≤ b := (hab y List.mem_cons_self).2
      omega

theorem countP_le_of_spread {l : List Nat} (hl : l.Pairwise (· + delay ≤ ·)) (hd : 0 < delay)
    (a b : Nat) : l.countP (fun t => a ≤ t ∧ t ≤ b) ≤ 1 + (b - a) / delay := by
  rw [List.countP_eq_length_filter, Nat.add_comm, ← Nat.add_div_right _ hd]
  apply (Nat.le_div_iff_mul_le hd).mpr
  apply length_le_of_spread (hl.filter _)
  intro t ht
  exact of_decide_eq_true (List.mem_filter.mp ht).2

end AlarmKeypad.Session
