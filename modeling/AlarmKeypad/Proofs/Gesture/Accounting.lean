import AlarmKeypad.Proofs.Gesture.Cancellation

namespace AlarmKeypad.Gesture

/-- A counter is at zero, or it is short of a confirmation and has a deadline. -/
def Sound (c : TapCounter) : Prop :=
  c = .zero ∨ 0 < c.count ∧ c.count ≤ 2 ∧ ∃ d, c.deadline = some d

/-- The sequences of a counter that have not ended. -/
def underway (c : TapCounter) : Nat := if c.count = 0 then 0 else 1

/-- The silence has passed, and nobody has reported it. -/
def lapses (c : TapCounter) (now : Nat) : Bool := c.deadline.any (· ≤ now)

theorem Agrees.sound {c : TapCounter} {window now n prev : Nat} (h : Agrees window c now n prev) :
    Sound c := by
  by_cases hzero : n = 0
  · exact .inl (h.eq_zero hzero)
  · rcases h.eq (Nat.pos_of_ne_zero hzero) with rfl | ⟨rfl, -⟩
    · exact .inr ⟨Nat.pos_of_ne_zero hzero, h.le, _, rfl⟩
    · exact .inl rfl

theorem Sound.isSome_deadline {c : TapCounter} (h : Sound c) :
    c.deadline.isSome ↔ c.count ≠ 0 := by
  rcases h with rfl | ⟨hpos, -, d, hd⟩
  · simp [TapCounter.zero]
  · simp [hd, Nat.ne_of_gt hpos]

theorem Sound.count_le {c : TapCounter} (h : Sound c) : c.count ≤ 2 := by
  rcases h with rfl | ⟨-, hle, -⟩
  · exact Nat.zero_le _
  · exact hle

/-- A tap begins a sequence, or it goes on with one or ends it. -/
theorem Sound.tap {c : TapCounter} (h : Sound c) (now window : Nat) :
    let r := c.tap now window
    underway c + (if r.1 = .pending 1 then 1 else 0) =
      (if r.1 = .confirmed then 1 else 0) + (if lapses c now then 1 else 0) + underway r.2 := by
  rcases h with rfl | ⟨hpos, hle, d, hd⟩
  · rfl
  · by_cases hdue : d ≤ now
    · have hexpire : c.expire now = .zero := by simp [TapCounter.expire, hd, hdue]
      simp [TapCounter.tap, hexpire, TapCounter.zero, tapsToConfirm, underway, lapses, hd, hdue,
        Nat.ne_of_gt hpos]
    · have hexpire : c.expire now = c := by simp [TapCounter.expire, hd, hdue]
      obtain hone | htwo : c.count = 1 ∨ c.count = 2 := by omega
      · simp [TapCounter.tap, hexpire, hone, tapsToConfirm, underway, lapses, hd, hdue]
      · simp [TapCounter.tap, hexpire, htwo, tapsToConfirm, underway, lapses, hd, hdue,
          TapCounter.zero]

theorem not_lapses {g : GestureConfirmer} {a : AlarmAction} {now : Nat}
    (h : ∀ d b, g.nextDeadline = some (d, b) → now < d) : lapses (g.counter a) now = false := by
  have hnone := queue_of_lt h
  rw [List.filter_eq_nil_iff] at hnone
  cases hd : (g.counter a).deadline with
  | none => simp [lapses, hd]
  | some d => simpa [lapses, hd] using hnone _ (mem_queue.mpr hd)

namespace Owner
variable {o : Owner} {a : AlarmAction} {t : Turn} {ts us : List Turn}

/-- The taps that begin a sequence on an action. -/
def started (o : Owner) (a : AlarmAction) (ts : List Turn) : Nat :=
  ((o.answers a ts).map Prod.fst).count (.pending 1)

def confirmed (o : Owner) (a : AlarmAction) (ts : List Turn) : Nat :=
  ((o.answers a ts).map Prod.fst).count .confirmed

/-- The reports that silence has cancelled the taps on an action. -/
def cancelled (o : Owner) (a : AlarmAction) (ts : List Turn) : Nat :=
  ((o.reports ts).map Prod.snd).count a

/-- The taps on an action after a silence that nobody reported. -/
def lapsed (a : AlarmAction) (o : Owner) : List Turn → Nat
  | [] => 0
  | t :: ts =>
    (if t = .tap a ∧ lapses (o.confirmer.counter a) o.now then 1 else 0) + (o.turn t).lapsed a ts

theorem answers_cons (o : Owner) (a : AlarmAction) (t : Turn) (ts : List Turn) :
    o.answers a (t :: ts) = o.answers a [t] ++ (o.turn t).answers a ts := by
  simp only [answers]
  split <;> rfl

theorem started_cons (o : Owner) (a : AlarmAction) (t : Turn) (ts : List Turn) :
    o.started a (t :: ts) = o.started a [t] + (o.turn t).started a ts := by
  rw [started, answers_cons, List.map_append, List.count_append, started, started]

theorem confirmed_cons (o : Owner) (a : AlarmAction) (t : Turn) (ts : List Turn) :
    o.confirmed a (t :: ts) = o.confirmed a [t] + (o.turn t).confirmed a ts := by
  rw [confirmed, answers_cons, List.map_append, List.count_append, confirmed, confirmed]

theorem cancelled_cons (o : Owner) (a : AlarmAction) (t : Turn) (ts : List Turn) :
    o.cancelled a (t :: ts) = o.cancelled a [t] + (o.turn t).cancelled a ts := by
  simp [cancelled, reports, List.count_append]

theorem lapsed_append (o : Owner) (a : AlarmAction) (ts us : List Turn) :
    o.lapsed a (ts ++ us) = o.lapsed a ts + (o.run ts).lapsed a us := by
  induction ts generalizing o with
  | nil => exact (Nat.zero_add _).symm
  | cons t ts ih => rw [List.cons_append, lapsed, lapsed, ih, run_cons, Nat.add_assoc]

theorem lapsed_of_tapless (o : Owner) (a : AlarmAction) (hts : Tapless ts) :
    o.lapsed a ts = 0 := by
  induction ts generalizing o with
  | nil => rfl
  | cons t ts ih =>
    have hne : t ≠ .tap a := fun ht => hts a (ht ▸ List.mem_cons_self)
    rw [lapsed, if_neg fun h => hne h.1, ih _ fun b hb => hts b (List.mem_cons_of_mem _ hb)]

/-- What a turn begins on an action, it leaves under way or ends. -/
def Balances (o : Owner) (a : AlarmAction) (ts : List Turn) : Prop :=
  underway (o.confirmer.counter a) + o.started a ts =
    o.confirmed a ts + o.cancelled a ts + o.lapsed a ts +
      underway ((o.run ts).confirmer.counter a)

theorem balances_tap (h : Sound (o.confirmer.counter a)) : o.Balances a [.tap a] := by
  have htap := h.tap o.now o.confirmer.window
  have hcounter : (o.tap a).confirmer.counter a =
      ((o.confirmer.counter a).tap o.now o.confirmer.window).2 :=
    (o.confirmer.counter_setCounter ..).trans (if_pos rfl)
  simp only [← hcounter] at htap
  simpa [Balances, started, confirmed, cancelled, lapsed, answers, reports, report?, turn,
    List.count_cons, GestureConfirmer.tap] using htap

theorem balances_tap_other {b : AlarmAction} (hb : b ≠ a) : o.Balances a [.tap b] := by
  have hcounter : (o.tap b).confirmer.counter a = o.confirmer.counter a :=
    (o.confirmer.counter_setCounter ..).trans (if_neg hb)
  simp [Balances, started, confirmed, cancelled, lapsed, answers, reports, report?, turn, hb,
    hcounter]

/-- A turn that is no tap begins nothing, and ends only what it reports. -/
theorem balances_aside (h : Sound (o.confirmer.counter a)) (hf : o.Foresees)
    (ht : ∀ b, t ≠ .tap b) : o.Balances a [t] := by
  have hturn : o.Balances a [t] ↔ underway (o.confirmer.counter a) =
      ((o.report? t).toList.map Prod.snd).count a + underway ((o.turn t).confirmer.counter a) := by
    simp [Balances, started, confirmed, cancelled, lapsed, answers, reports, ht a]
  rw [hturn]
  rcases keeps_or_takes hf ht with ⟨hreport, hconfirmer⟩ | ⟨d, b, hnext, -, hreport, hconfirmer⟩
  · rw [hreport, hconfirmer]
    exact (Nat.zero_add _).symm
  · rw [hreport, hconfirmer, counter_cancel]
    by_cases hab : b = a
    · subst hab
      have hcount := h.isSome_deadline.mp (nextDeadline_eq_some hnext ▸ rfl)
      simp [underway, hcount, TapCounter.zero]
    · simp [hab, underway]

theorem balances_turn (h : Sound (o.confirmer.counter a)) (hf : o.Foresees) (t : Turn) :
    o.Balances a [t] := by
  by_cases ht : ∃ b, t = .tap b
  · obtain ⟨b, rfl⟩ := ht
    by_cases hb : b = a
    · exact hb ▸ balances_tap (hb ▸ h)
    · exact balances_tap_other hb
  · exact balances_aside h hf fun b hb => ht ⟨b, hb⟩

/-- No sequence of taps is lost in any history. -/
theorem balances {window n prev : Nat} (h : o.Tracks window a n prev) (hf : o.Foresees)
    (ts : List Turn) : o.Balances a ts := by
  induction ts generalizing o n prev with
  | nil => simp [Balances, started, confirmed, cancelled, lapsed, answers, reports]
  | cons t ts ih =>
    have hturn := balances_turn h.agrees.sound hf t
    obtain ⟨m, hm, -⟩ := h.run [t]
    have hrest := ih hm (hf.turn t)
    unfold Balances at hturn hrest ⊢
    rw [started_cons, confirmed_cons, cancelled_cons, lapsed, run_cons]
    simp only [lapsed, run_cons, run_nil] at hturn hrest
    omega

/-- Taps, each some time after the one before. Until then their owner waits for one cancellation
after another. -/
def attended (o : Owner) : List (Nat × AlarmAction) → List Turn
  | [] => []
  | (ms, a) :: taps =>
    o.waits (o.now + ms) ++ .tap a :: ((o.run (o.waits (o.now + ms))).tap a).attended taps

/-- The times of those taps. -/
def timesOf (a : AlarmAction) (now : Nat) : List (Nat × AlarmAction) → List Nat
  | [] => []
  | (ms, b) :: taps =>
    if b = a then (now + ms) :: timesOf a (now + ms) taps else timesOf a (now + ms) taps

theorem tapTimes_append (o : Owner) (a : AlarmAction) (ts us : List Turn) :
    o.tapTimes a (ts ++ us) = o.tapTimes a ts ++ (o.run ts).tapTimes a us := by
  induction ts generalizing o with
  | nil => rfl
  | cons t ts ih =>
    simp only [List.cons_append, tapTimes, ih, run_cons]
    split <;> rfl

theorem tapTimes_of_tapless (o : Owner) (a : AlarmAction) (hts : Tapless ts) :
    o.tapTimes a ts = [] := by
  induction ts generalizing o with
  | nil => rfl
  | cons t ts ih =>
    have hne : t ≠ .tap a := fun ht => hts a (ht ▸ List.mem_cons_self)
    rw [tapTimes, if_neg hne, ih _ fun b hb => hts b (List.mem_cons_of_mem _ hb)]

/-- No tap comes after a silence that nobody reported. -/
theorem lapsed_attended (o : Owner) (a : AlarmAction) (taps : List (Nat × AlarmAction)) :
    o.lapsed a (o.attended taps) = 0 := by
  induction taps generalizing o with
  | nil => rfl
  | cons p taps ih =>
    obtain ⟨ms, b⟩ := p
    have hnow : o.now ≤ o.now + ms := Nat.le_add_right ..
    obtain ⟨htime, hnext⟩ := run_waits hnow
    have hlapses : lapses ((o.run (o.waits (o.now + ms))).confirmer.counter a)
        (o.run (o.waits (o.now + ms))).now = false := by
      rw [htime]
      exact not_lapses hnext
    rw [attended, lapsed_append, lapsed_of_tapless o a (tapless_waits o hnow), lapsed, turn, ih,
      hlapses]
    simp

theorem tapTimes_attended (o : Owner) (a : AlarmAction) (taps : List (Nat × AlarmAction)) :
    o.tapTimes a (o.attended taps) = timesOf a o.now taps := by
  induction taps generalizing o with
  | nil => rfl
  | cons p taps ih =>
    obtain ⟨ms, b⟩ := p
    have hnow : o.now ≤ o.now + ms := Nat.le_add_right ..
    obtain ⟨htime, -⟩ := run_waits hnow
    have htap : ((o.run (o.waits (o.now + ms))).tap b).now = o.now + ms := htime
    rw [attended, tapTimes_append, tapTimes_of_tapless o a (tapless_waits o hnow), tapTimes, turn,
      ih, htap, timesOf, htime, List.nil_append]
    simp only [Turn.tap.injEq]

end Owner

/-- No sequence of taps disappears. If the owner waits for cancellations before each tap until the
tap comes, and does what it likes after the last one, then on each action as many taps begin a
sequence as confirm one or are reported cancelled, and one more if taps are still counted. In every
state that turns lead to, a count is below three, and it is not zero exactly if silence has a
deadline. -/
theorem starts_accounted (window start : Nat) :
    let o := Owner.new window start
    (∀ a taps us, Tapless us →
      o.tapTimes a (o.attended taps ++ us) = Owner.timesOf a start taps ∧
      o.started a (o.attended taps ++ us) =
        o.confirmed a (o.attended taps ++ us) + o.cancelled a (o.attended taps ++ us) +
          if (o.run (o.attended taps ++ us)).confirmer.count a = 0 then 0 else 1) ∧
    ∀ a ts, (o.run ts).confirmer.count a ≤ 2 ∧
      (((o.run ts).confirmer.counter a).deadline.isSome ↔ (o.run ts).confirmer.count a ≠ 0) := by
  intro o
  refine ⟨fun a taps us hus => ⟨?_, ?_⟩, fun a ts => ?_⟩
  · rw [Owner.tapTimes_append, Owner.tapTimes_of_tapless _ a hus, Owner.tapTimes_attended,
      List.append_nil]
    rfl
  · have hbalances := Owner.balances (.new window start a) (Owner.foresees_new window start)
      (o.attended taps ++ us)
    have hlapsed : o.lapsed a (o.attended taps ++ us) = 0 := by
      rw [Owner.lapsed_append, Owner.lapsed_attended, Owner.lapsed_of_tapless _ a hus]
    have hstart : underway (o.confirmer.counter a) = 0 := by cases a <;> rfl
    unfold Owner.Balances at hbalances
    rwa [hstart, Nat.zero_add, hlapsed, Nat.add_zero] at hbalances
  · obtain ⟨_, h, -⟩ := (Owner.Tracks.new window start a).run ts
    exact ⟨h.agrees.sound.count_le, h.agrees.sound.isSome_deadline⟩

end AlarmKeypad.Gesture
