import AlarmKeypad.Gesture

namespace AlarmKeypad.Gesture

/-! ## The rule -/

section
variable (window : Nat)

/-- The count after a tap at `t`, when it was `n` after one at `prev`. -/
def countAfter (n prev t : Nat) : Nat := if 0 < n ∧ t < prev + window then n + 1 else 1

/-- The answer to a tap that makes a count, and the count it leaves. -/
def answer (k : Nat) : Confirmation × Nat := if k = 3 then (.confirmed, 0) else (.pending k, k)

/-- The answers to the taps on one action, by their times. -/
def reference (n prev : Nat) : List Nat → List (Confirmation × Nat)
  | [] => []
  | t :: ts =>
    answer (countAfter window n prev t) ::
      reference (answer (countAfter window n prev t)).2 t ts

/-- How many taps, the last in front, have followed one another within the window. -/
def streak : List Nat → Nat
  | [] => 0
  | [_] => 1
  | t :: s :: r => if t < s + window then streak (s :: r) + 1 else 1

end

/-- The answer to the last tap of a streak, and the count it leaves. -/
def verdict (s : Nat) : Confirmation × Nat :=
  if s % 3 = 0 then (.confirmed, 0) else (.pending (s % 3), s % 3)

/-! ## Histories -/

/-- The owner of a confirmer. A wait keeps taps away until it is given up. -/
structure Owner where
  now : Nat
  confirmer : GestureConfirmer
  wait : Option Wait
deriving DecidableEq

inductive Turn where
  | elapse (ms : Nat)
  | tap (a : AlarmAction)
  /-- A wait begins. -/
  | begin
  | poll (fires : Bool)
  /-- The wait is given up. -/
  | drop
  /-- Waits for a cancellation, for a time at most. -/
  | await (ms : Nat)
deriving DecidableEq

namespace Owner

def new (window start : Nat) : Owner := ⟨start, .new window, none⟩

def tap (o : Owner) (a : AlarmAction) : Owner :=
  { o with confirmer := (o.confirmer.tap a o.now).2, wait := none }

def poll (o : Owner) (fires : Bool) : Owner :=
  match o.wait with
  | some w =>
    { o with
      confirmer := (o.confirmer.poll o.now fires w).2.2
      wait := some (o.confirmer.poll o.now fires w).2.1 }
  | none => o

def await (o : Owner) (ms : Nat) : Owner :=
  { now := (o.confirmer.awaitCancellation o.now (o.now + ms)).2.1
    confirmer := (o.confirmer.awaitCancellation o.now (o.now + ms)).2.2
    wait := none }

def turn (o : Owner) : Turn → Owner
  | .elapse ms => { o with now := o.now + ms }
  | .tap a => o.tap a
  | .begin => { o with wait := some .fresh }
  | .poll fires => o.poll fires
  | .drop => { o with wait := none }
  | .await ms => o.await ms

def tapTimes (a : AlarmAction) (o : Owner) : List Turn → List Nat
  | [] => []
  | t :: ts =>
    if t = .tap a then o.now :: (o.turn t).tapTimes a ts else (o.turn t).tapTimes a ts

def answers (a : AlarmAction) (o : Owner) : List Turn → List (Confirmation × Nat)
  | [] => []
  | t :: ts =>
    if t = .tap a then
      ((o.confirmer.tap a o.now).1, (o.tap a).confirmer.count a) :: (o.turn t).answers a ts
    else (o.turn t).answers a ts

end Owner

/-! ## What a counter knows -/

/-- A counter says what the rule says, or it has been cancelled since the window passed. -/
structure Agrees (window : Nat) (c : TapCounter) (now n prev : Nat) : Prop where
  le : n ≤ 2
  eq_zero : n = 0 → c = .zero
  eq : 0 < n → c = ⟨n, some (prev + window)⟩ ∨ c = .zero ∧ prev + window ≤ now

variable {window now n prev : Nat} {c : TapCounter}

theorem Agrees.later {later : Nat} (h : Agrees window c now n prev) (hl : now ≤ later) :
    Agrees window c later n prev :=
  ⟨h.le, h.eq_zero, fun hn => (h.eq hn).imp_right fun hz => ⟨hz.1, Nat.le_trans hz.2 hl⟩⟩

/-- A cancellation that is due changes nothing that a tap could tell. -/
theorem Agrees.cancel {d : Nat} (h : Agrees window c now n prev) (hd : c.deadline = some d)
    (hdue : d ≤ now) : Agrees window .zero now n prev := by
  refine ⟨h.le, fun _ => rfl, fun hn => .inr ⟨rfl, ?_⟩⟩
  rcases h.eq hn with rfl | ⟨-, hle⟩
  · exact Option.some.inj hd ▸ hdue
  · exact hle

theorem Agrees.expire (h : Agrees window c now n prev) :
    (c.expire now).count = if 0 < n ∧ now < prev + window then n else 0 := by
  by_cases hn : 0 < n
  · rcases h.eq hn with rfl | ⟨rfl, hle⟩
    · by_cases hlt : now < prev + window
      · rw [if_pos ⟨hn, hlt⟩]
        simp [TapCounter.expire, Nat.not_le.mpr hlt]
      · rw [if_neg fun h => hlt h.2]
        simp [TapCounter.expire, Nat.not_lt.mp hlt, TapCounter.zero]
    · rw [if_neg fun h => Nat.not_lt.mpr hle h.2]
      rfl
  · rw [h.eq_zero (by omega), if_neg fun h => hn h.1]
    rfl

/-- A tap answers as the rule says, and what its counter then says is what the rule says. -/
theorem Agrees.tap (h : Agrees window c now n prev) :
    let r := c.tap now window
    (r.1, r.2.count) = answer (countAfter window n prev now) ∧
      Agrees window r.2 now (answer (countAfter window n prev now)).2 now := by
  have hcount : (c.expire now).count + 1 = countAfter window n prev now := by
    rw [h.expire, countAfter]
    split <;> rfl
  have hle : countAfter window n prev now ≤ 3 := by
    have := h.le
    unfold countAfter
    split <;> omega
  unfold TapCounter.tap tapsToConfirm answer
  rw [hcount]
  by_cases heq : countAfter window n prev now = 3
  · rw [if_pos heq, if_pos (Nat.le_of_eq heq.symm)]
    exact ⟨rfl, by omega, fun _ => rfl, by omega⟩
  · rw [if_neg heq, if_neg (by omega)]
    exact ⟨rfl, by omega, by omega, fun _ => .inl rfl⟩

/-! ## What a look at a wait can do -/

theorem earlier_eq_some {x y : Option (Nat × AlarmAction)} {p : Nat × AlarmAction}
    (h : GestureConfirmer.earlier x y = some p) : x = some p ∨ y = some p := by
  unfold GestureConfirmer.earlier at h
  split at h
  · exact .inr h
  · exact .inl h
  · split at h
    · exact .inr h
    · exact .inl h

theorem deadlineOf_eq_some {g : GestureConfirmer} {a b : AlarmAction} {d : Nat}
    (h : g.deadlineOf a = some (d, b)) : (g.counter b).deadline = some d := by
  obtain ⟨e, he, heq⟩ := Option.map_eq_some_iff.mp h
  obtain ⟨rfl, rfl⟩ := Prod.mk.inj heq
  exact he

theorem nextDeadline_eq_some {g : GestureConfirmer} {b : AlarmAction} {d : Nat}
    (h : g.nextDeadline = some (d, b)) : (g.counter b).deadline = some d := by
  rcases earlier_eq_some h with h | h
  · rcases earlier_eq_some h with h | h <;> exact deadlineOf_eq_some h
  · exact deadlineOf_eq_some h

/-- What a wait is for is due when its timer says. -/
def Timed (g : GestureConfirmer) (w : Wait) : Prop :=
  ∀ d b, w = .pending d b → (g.counter b).deadline = some d

theorem Timed.pending {g : GestureConfirmer} {d : Nat} {b : AlarmAction}
    (h : (g.counter b).deadline = some d) : Timed g (.pending d b) := by
  rintro d b ⟨⟩
  exact h

theorem pollTimer_cases {g : GestureConfirmer} {d : Nat} {b : AlarmAction} (now : Nat)
    (fires : Bool) (h : (g.counter b).deadline = some d) :
    let r := g.pollTimer now fires d b
    r.2.2 = g ∧ Timed g r.2.1 ∨ d ≤ now ∧ r.2 = (.finished, g.cancel b) := by
  unfold GestureConfirmer.pollTimer
  split
  case isTrue hdue => exact .inr ⟨hdue.2, rfl⟩
  case isFalse => exact .inl ⟨rfl, .pending h⟩

/-- A look at a wait leaves the counters alone, or it resets one that is due. -/
theorem poll_cases {g : GestureConfirmer} {w : Wait} (now : Nat) (fires : Bool) (h : Timed g w) :
    let r := g.poll now fires w
    r.2.2 = g ∧ Timed g r.2.1 ∨
      ∃ d b, (g.counter b).deadline = some d ∧ d ≤ now ∧ r.2 = (.finished, g.cancel b) := by
  have hpending (d : Nat) (b : AlarmAction) (hd : (g.counter b).deadline = some d) :
      let r := g.pollTimer now fires d b
      r.2.2 = g ∧ Timed g r.2.1 ∨
        ∃ d b, (g.counter b).deadline = some d ∧ d ≤ now ∧ r.2 = (.finished, g.cancel b) :=
    (pollTimer_cases now fires hd).imp_right fun hr => ⟨d, b, hd, hr⟩
  cases w with
  | fresh =>
    cases hnext : g.nextDeadline with
    | none =>
      simp only [GestureConfirmer.poll, hnext]
      exact .inl ⟨trivial, nofun⟩
    | some p =>
      simp only [GestureConfirmer.poll, hnext]
      exact hpending p.1 p.2 (nextDeadline_eq_some hnext)
  | idle => exact .inl ⟨rfl, nofun⟩
  | pending d b => exact hpending d b (h d b rfl)
  | finished => exact .inl ⟨rfl, nofun⟩

/-- To wait for a time is to begin a wait, look at it when it ends and give it up. -/
theorem Owner.await_eq (o : Owner) (ms : Nat) :
    ∃ k, o.await ms = [.elapse k, .begin, .poll true, .drop].foldl turn o := by
  cases hnext : o.confirmer.nextDeadline with
  | none =>
    refine ⟨ms, ?_⟩
    simp [turn, await, poll, GestureConfirmer.awaitCancellation, GestureConfirmer.poll, hnext]
  | some p =>
    obtain ⟨d, b⟩ := p
    by_cases hd : d ≤ o.now + ms
    · refine ⟨max o.now d - o.now, ?_⟩
      have hnow : o.now + (max o.now d - o.now) = max o.now d := by omega
      simp only [List.foldl_cons, List.foldl_nil, turn, await, poll, hnext, hd, hnow,
        GestureConfirmer.awaitCancellation, GestureConfirmer.poll, GestureConfirmer.pollTimer,
        Nat.le_max_right, and_self, if_true]
    · refine ⟨ms, ?_⟩
      simp [turn, await, poll, GestureConfirmer.awaitCancellation, GestureConfirmer.poll,
        GestureConfirmer.pollTimer, hnext, hd]

theorem Agrees.cancel_counter {g : GestureConfirmer} {a b : AlarmAction} {d : Nat}
    (h : Agrees window (g.counter a) now n prev) (hd : (g.counter b).deadline = some d)
    (hdue : d ≤ now) : Agrees window ((g.cancel b).counter a) now n prev := by
  rw [GestureConfirmer.cancel, GestureConfirmer.counter_setCounter]
  split
  case isTrue hb => exact h.cancel (hb ▸ hd) hdue
  case isFalse => exact h

/-! ## Every turn -/

/-- The taps on an action so far have left the count `n`, the last of them at `prev`. -/
structure Owner.Tracks (o : Owner) (window : Nat) (a : AlarmAction) (n prev : Nat) : Prop where
  window_eq : o.confirmer.window = window
  agrees : Agrees window (o.confirmer.counter a) o.now n prev
  timed : ∀ w, o.wait = some w → Timed o.confirmer w

namespace Owner.Tracks

variable {o : Owner} {a : AlarmAction}

theorem new (window start : Nat) (a : AlarmAction) :
    (Owner.new window start).Tracks window a 0 0 where
  window_eq := rfl
  agrees := ⟨by omega, fun _ => by cases a <;> rfl, by omega⟩
  timed := nofun

/-- A look leaves what is known of every action. -/
theorem poll (h : o.Tracks window a n prev) (fires : Bool) :
    (o.poll fires).Tracks window a n prev := by
  unfold Owner.poll
  split
  case h_2 => exact h
  case h_1 w hw =>
    rcases poll_cases o.now fires (h.timed w hw) with ⟨hg, ht⟩ | ⟨d, b, hd, hdue, hr⟩
    · rw [hg]
      refine ⟨h.window_eq, h.agrees, ?_⟩
      rintro w ⟨⟩
      exact ht
    · rw [hr]
      refine ⟨?_, h.agrees.cancel_counter hd hdue, ?_⟩
      · exact (o.confirmer.window_setCounter b .zero).trans h.window_eq
      · rintro w ⟨⟩
        exact nofun

theorem elapse (h : o.Tracks window a n prev) (ms : Nat) :
    (o.turn (.elapse ms)).Tracks window a n prev :=
  { h with agrees := h.agrees.later (Nat.le_add_right ..) }

theorem begin (h : o.Tracks window a n prev) : (o.turn .begin).Tracks window a n prev := by
  refine { h with timed := ?_ }
  rintro w ⟨⟩
  exact nofun

theorem drop (h : o.Tracks window a n prev) : (o.turn .drop).Tracks window a n prev :=
  { h with timed := nofun }

theorem await (h : o.Tracks window a n prev) (ms : Nat) :
    (o.await ms).Tracks window a n prev := by
  obtain ⟨k, hk⟩ := o.await_eq ms
  exact hk ▸ (((h.elapse k).begin).poll true).drop

/-- A tap on another action leaves what is known of this one. -/
theorem tap_other {b : AlarmAction} (h : o.Tracks window a n prev) (hb : b ≠ a) :
    (o.tap b).Tracks window a n prev where
  window_eq := (o.confirmer.window_setCounter ..).trans h.window_eq
  agrees := by
    have hc : (o.tap b).confirmer.counter a = o.confirmer.counter a :=
      (o.confirmer.counter_setCounter ..).trans (if_neg hb)
    exact hc ▸ h.agrees
  timed := nofun

/-- No turn but a tap on the action changes what is known of it. -/
theorem turn_of_ne (h : o.Tracks window a n prev) {t : Turn} (ht : t ≠ .tap a) :
    (o.turn t).Tracks window a n prev := by
  cases t with
  | elapse ms => exact h.elapse ms
  | tap b => exact h.tap_other fun hb => ht (congrArg _ hb)
  | begin => exact h.begin
  | poll fires => exact h.poll fires
  | drop => exact h.drop
  | await ms => exact h.await ms

/-- A tap on the action is answered as the rule says. -/
theorem tap (h : o.Tracks window a n prev) :
    ((o.confirmer.tap a o.now).1, (o.tap a).confirmer.count a) =
        answer (countAfter window n prev o.now) ∧
      (o.tap a).Tracks window a (answer (countAfter window n prev o.now)).2 o.now := by
  have hc : (o.tap a).confirmer.counter a =
      ((o.confirmer.counter a).tap o.now o.confirmer.window).2 :=
    (o.confirmer.counter_setCounter ..).trans (if_pos rfl)
  obtain ⟨hanswer, hagrees⟩ := h.agrees.tap
  rw [← h.window_eq] at hanswer hagrees ⊢
  refine ⟨(congrArg (Prod.mk _ ·.count) hc).trans hanswer, ?_, hc ▸ hagrees, nofun⟩
  exact o.confirmer.window_setCounter ..

/-- Every history is answered as the rule says. -/
theorem answers (h : o.Tracks window a n prev) (ts : List Turn) :
    o.answers a ts = reference window n prev (o.tapTimes a ts) := by
  induction ts generalizing o n prev with
  | nil => rfl
  | cons t ts ih =>
    unfold Owner.answers Owner.tapTimes
    by_cases ht : t = .tap a
    · subst ht
      rw [if_pos rfl, if_pos rfl, reference, h.tap.1]
      exact congrArg _ (ih h.tap.2)
    · rw [if_neg ht, if_neg ht, ih (h.turn_of_ne ht)]

end Owner.Tracks

/-! ## Streaks -/

theorem streak_cons (window t : Nat) (past : List Nat) : streak window (t :: past) =
    if past ≠ [] ∧ t < past.headD 0 + window then streak window past + 1 else 1 := by
  cases past with
  | nil => rfl
  | cons s r => simp [streak]

theorem streak_pos (window t : Nat) (past : List Nat) : 0 < streak window (t :: past) := by
  rw [streak_cons]
  split <;> omega

/-- The rule counts a streak by threes. -/
theorem answer_countAfter (window t : Nat) (past : List Nat) :
    answer (countAfter window (streak window past % 3) (past.headD 0) t) =
      verdict (streak window (t :: past)) := by
  have hnil : past = [] → streak window past = 0 := fun h => h ▸ rfl
  rw [streak_cons]
  unfold countAfter answer verdict
  by_cases hp : past ≠ [] ∧ t < past.headD 0 + window
  · rw [if_pos hp]
    split <;> grind
  · rw [if_neg hp]
    grind

theorem verdict_snd (s : Nat) : (verdict s).2 = s % 3 := by
  unfold verdict
  split
  case isTrue h => exact h.symm
  case isFalse => rfl

/-- One more tap has one more answer. -/
theorem reference_concat (window : Nat) (past ts : List Nat) (t : Nat) :
    reference window (streak window past % 3) (past.headD 0) (ts ++ [t]) =
      reference window (streak window past % 3) (past.headD 0) ts ++
        [verdict (streak window (t :: (ts.reverse ++ past)))] := by
  induction ts generalizing past with
  | nil => exact congrArg ([·]) (answer_countAfter window t past)
  | cons s ts ih =>
    rw [List.cons_append, reference, reference, answer_countAfter, verdict_snd,
      List.reverse_cons, List.append_assoc, List.cons_append]
    exact congrArg _ (ih (s :: past))

theorem reference_getElem? (window : Nat) (past before : List Nat) (t : Nat) (rest : List Nat) :
    (reference window (streak window past % 3) (past.headD 0)
        (before ++ t :: rest))[before.length]? =
      some (verdict (streak window (t :: (before.reverse ++ past)))) := by
  induction before generalizing past with
  | nil => exact congrArg some (answer_countAfter window t past)
  | cons s before ih =>
    rw [List.cons_append, reference, answer_countAfter, verdict_snd, List.length_cons,
      List.getElem?_cons_succ, List.reverse_cons, List.append_assoc]
    exact ih (s :: past)

theorem length_reference (window n prev : Nat) (ts : List Nat) :
    (reference window n prev ts).length = ts.length := by
  induction ts generalizing n prev with
  | nil => rfl
  | cons t ts ih => exact congrArg (· + 1) (ih ..)

theorem reference_at (window : Nat) (before : List Nat) (t : Nat) (rest : List Nat) :
    (reference window 0 0 (before ++ t :: rest))[before.length]? =
      some (verdict (streak window (t :: before.reverse))) := by
  have h := reference_getElem? window [] before t rest
  rwa [List.append_nil] at h

/-- Every answer is the verdict on a streak. -/
theorem mem_reference {window : Nat} {ts : List Nat} {x : Confirmation × Nat} :
    x ∈ reference window 0 0 ts ↔
      ∃ before t rest, ts = before ++ t :: rest ∧
        x = verdict (streak window (t :: before.reverse)) := by
  constructor
  · intro hx
    obtain ⟨i, hi, hxi⟩ := List.mem_iff_getElem.mp hx
    have hi' : i < ts.length := length_reference window 0 0 ts ▸ hi
    have hts : ts = ts.take i ++ ts[i] :: ts.drop (i + 1) := by simp
    refine ⟨ts.take i, ts[i], ts.drop (i + 1), hts, ?_⟩
    have := reference_at window (ts.take i) ts[i] (ts.drop (i + 1))
    rw [← hts, List.length_take_of_le (Nat.le_of_lt hi')] at this
    exact Option.some.inj ((List.getElem?_eq_some_iff.mpr ⟨hi, hxi⟩).symm.trans this)
  · rintro ⟨before, t, rest, rfl, rfl⟩
    exact List.mem_of_getElem? (reference_at window before t rest)

theorem three_le_streak {window : Nat} {past : List Nat} : 3 ≤ streak window past ↔
    ∃ t₁ t₂ t₃ before, past = t₃ :: t₂ :: t₁ :: before ∧
      t₂ < t₁ + window ∧ t₃ < t₂ + window := by
  match past with
  | [] => simp [streak]
  | [_] => simp [streak]
  | [s, t] => simp [streak]; grind
  | t₃ :: t₂ :: t₁ :: before =>
    have hpos := streak_pos window t₁ before
    constructor
    · intro h
      rw [streak, streak] at h
      refine ⟨t₁, t₂, t₃, before, rfl, ?_⟩
      grind
    · rintro ⟨_, _, _, _, ⟨⟩, h₁, h₂⟩
      rw [streak, if_pos h₂, streak, if_pos h₁]
      omega

theorem confirmed_iff {s : Nat} : verdict s = (.confirmed, 0) ↔ s % 3 = 0 := by
  unfold verdict
  split <;> simp_all

/-- An alarm is confirmed exactly if three taps that follow one another are close enough. -/
theorem confirmed_mem_reference {window : Nat} {ts : List Nat} :
    (.confirmed, 0) ∈ reference window 0 0 ts ↔
      ∃ before t₁ t₂ t₃ rest, ts = before ++ t₁ :: t₂ :: t₃ :: rest ∧
        t₂ < t₁ + window ∧ t₃ < t₂ + window := by
  rw [mem_reference]
  constructor
  · rintro ⟨before, t, rest, rfl, hx⟩
    have hpos := streak_pos window t before.reverse
    have hmod := confirmed_iff.mp hx.symm
    obtain ⟨t₁, t₂, t₃, past, hpast, hclose⟩ :=
      three_le_streak.mp (show 3 ≤ streak window (t :: before.reverse) by omega)
    obtain ⟨rfl, hbefore⟩ := List.cons.inj hpast
    refine ⟨past.reverse, t₁, t₂, t, rest, ?_, hclose⟩
    rw [← List.reverse_reverse before, hbefore]
    simp
  · rintro ⟨before, t₁, t₂, t₃, rest, rfl, h₁, h₂⟩
    have hsecond : streak window (t₂ :: t₁ :: before.reverse) =
        streak window (t₁ :: before.reverse) + 1 := if_pos h₁
    have hthird : streak window (t₃ :: t₂ :: t₁ :: before.reverse) =
        streak window (t₂ :: t₁ :: before.reverse) + 1 := if_pos h₂
    -- One of the three taps makes a count of three.
    obtain h | h | h : streak window (t₁ :: before.reverse) % 3 = 0 ∨
        streak window (t₂ :: t₁ :: before.reverse) % 3 = 0 ∨
        streak window (t₃ :: t₂ :: t₁ :: before.reverse) % 3 = 0 := by omega
    · exact ⟨before, t₁, t₂ :: t₃ :: rest, rfl, (confirmed_iff.mpr h).symm⟩
    · refine ⟨before ++ [t₁], t₂, t₃ :: rest, by simp, ?_⟩
      rw [List.reverse_append]
      exact (confirmed_iff.mpr h).symm
    · refine ⟨before ++ [t₁, t₂], t₃, rest, by simp, ?_⟩
      rw [List.reverse_append]
      exact (confirmed_iff.mpr h).symm

/-- The answers to taps, where each confirmation uses up three taps: the one that it answers and the
two before it, with both gaps below the window. No tap is used up twice. -/
structure Backed (window : Nat) (ts : List Nat) (cs : List Confirmation) : Prop where
  length_eq : cs.length = ts.length
  taps : ∀ j, cs[j]? = some .confirmed → ∃ i t₁ t₂ t₃, j = i + 2 ∧ ts[i]? = some t₁ ∧
    ts[i + 1]? = some t₂ ∧ ts[i + 2]? = some t₃ ∧ t₂ < t₁ + window ∧ t₃ < t₂ + window
  apart : ∀ i j, cs[i]? = some .confirmed → cs[j]? = some .confirmed → i < j → i + 2 < j

def answersTo (window : Nat) (ts : List Nat) : List Confirmation :=
  (reference window 0 0 ts).map Prod.fst

theorem answersTo_concat (window : Nat) (ts : List Nat) (t : Nat) :
    answersTo window (ts ++ [t]) =
      answersTo window ts ++ [(verdict (streak window (t :: ts.reverse))).1] := by
  have h := reference_concat window [] ts t
  rw [List.append_nil] at h
  exact (congrArg (List.map Prod.fst) h).trans List.map_append

theorem answersTo_at (window : Nat) (before : List Nat) (t : Nat) (rest : List Nat) :
    (answersTo window (before ++ t :: rest))[before.length]? =
      some (verdict (streak window (t :: before.reverse))).1 := by
  rw [answersTo, List.getElem?_map, reference_at]
  rfl

theorem verdict_fst_confirmed {s : Nat} (h : (verdict s).1 = .confirmed) : s % 3 = 0 := by
  unfold verdict at h
  split at h
  case isTrue hs => exact hs
  case isFalse => exact nomatch h

/-- The tap that is confirmed ends a streak of three or more. -/
theorem streak_of_confirmed {window j : Nat} {ts : List Nat}
    (h : (answersTo window ts)[j]? = some .confirmed) :
    ∃ before t₁ t₂ t₃ rest, ts = before ++ t₁ :: t₂ :: t₃ :: rest ∧ j = before.length + 2 ∧
      t₂ < t₁ + window ∧ t₃ < t₂ + window ∧
      streak window (t₃ :: t₂ :: t₁ :: before.reverse) % 3 = 0 := by
  obtain ⟨hj, -⟩ := List.getElem?_eq_some_iff.mp h
  rw [answersTo, List.length_map, length_reference] at hj
  have hts : ts = ts.take j ++ ts[j] :: ts.drop (j + 1) := by simp
  have hat := answersTo_at window (ts.take j) ts[j] (ts.drop (j + 1))
  rw [← hts, List.length_take_of_le (Nat.le_of_lt hj), h] at hat
  have hmod := verdict_fst_confirmed (Option.some.inj hat).symm
  have hpos := streak_pos window ts[j] (ts.take j).reverse
  obtain ⟨t₁, t₂, t₃, past, hpast, h₁, h₂⟩ :=
    three_le_streak.mp (show 3 ≤ streak window (ts[j] :: (ts.take j).reverse) by omega)
  obtain ⟨htj, hbefore⟩ := List.cons.inj hpast
  have htake : ts.take j = past.reverse ++ [t₁, t₂] := by
    rw [← List.reverse_reverse (ts.take j), hbefore]
    simp
  refine ⟨past.reverse, t₁, t₂, t₃, ts.drop (j + 1), ?_, ?_, h₁, h₂, ?_⟩
  · calc ts = ts.take j ++ ts[j] :: ts.drop (j + 1) := hts
      _ = past.reverse ++ t₁ :: t₂ :: t₃ :: ts.drop (j + 1) := by rw [htake, htj]; simp
  · have hlength := congrArg List.length htake
    rw [List.length_take_of_le (Nat.le_of_lt hj)] at hlength
    simpa using hlength
  · rwa [List.reverse_reverse, ← hpast]

theorem backed_answersTo (window : Nat) (ts : List Nat) :
    Backed window ts (answersTo window ts) where
  length_eq := (List.length_map _).trans (length_reference ..)
  taps j hj := by
    obtain ⟨before, t₁, t₂, t₃, rest, rfl, rfl, h₁, h₂, -⟩ := streak_of_confirmed hj
    exact ⟨before.length, t₁, t₂, t₃, rfl, by simp, by simp, by simp, h₁, h₂⟩
  apart i j hi hj hij := by
    -- the two taps before one that is confirmed make counts of one and of two
    obtain ⟨before, t₁, t₂, t₃, rest, rfl, rfl, h₁, h₂, hmod⟩ := streak_of_confirmed hj
    have hthird : streak window (t₃ :: t₂ :: t₁ :: before.reverse) =
        streak window (t₁ :: before.reverse) + 2 := by
      rw [streak, if_pos h₂, streak, if_pos h₁]
    have hfirst := answersTo_at window before t₁ (t₂ :: t₃ :: rest)
    have hsecond := answersTo_at window (before ++ [t₁]) t₂ (t₃ :: rest)
    rw [List.append_assoc, List.reverse_append, List.length_append] at hsecond
    have hcount : streak window (t₂ :: t₁ :: before.reverse) =
        streak window (t₁ :: before.reverse) + 1 := if_pos h₁
    refine Nat.lt_of_not_le fun hclose => ?_
    obtain h | h : i = before.length ∨ i = before.length + 1 := by omega
    · have hzero := verdict_fst_confirmed (Option.some.inj (hfirst.symm.trans (h ▸ hi)))
      omega
    · have hzero := verdict_fst_confirmed (Option.some.inj (hsecond.symm.trans (h ▸ hi)))
      rw [List.reverse_singleton, List.singleton_append, hcount] at hzero
      omega

/-- Confirmation is exact and independent. Whatever an owner does, the taps on an action are
answered by their own times as the rule says, each with the verdict on its streak. So an alarm is
confirmed exactly if three taps in a row on its action have both gaps below the window, and the
answers are those of every other history with the same taps on the action. -/
theorem Owner.answers_exact (window start : Nat) (a : AlarmAction) (ts : List Turn) :
    let o := Owner.new window start
    o.answers a ts = reference window 0 0 (o.tapTimes a ts) ∧
      (∀ before t rest, o.tapTimes a ts = before ++ t :: rest →
        (o.answers a ts)[before.length]? = some (verdict (streak window (t :: before.reverse)))) ∧
      ((.confirmed, 0) ∈ o.answers a ts ↔
        ∃ before t₁ t₂ t₃ rest, o.tapTimes a ts = before ++ t₁ :: t₂ :: t₃ :: rest ∧
          t₂ < t₁ + window ∧ t₃ < t₂ + window) ∧
      ∀ start' ts', (Owner.new window start').tapTimes a ts' = o.tapTimes a ts →
        (Owner.new window start').answers a ts' = o.answers a ts := by
  intro o
  have hexact : o.answers a ts = reference window 0 0 (o.tapTimes a ts) :=
    (Owner.Tracks.new window start a).answers ts
  refine ⟨hexact, fun before t rest hsplit => ?_, ?_, fun start' ts' htimes => ?_⟩
  · rw [hexact, hsplit]
    exact reference_at window before t rest
  · rw [hexact]
    exact confirmed_mem_reference
  · rw [hexact, ← htimes]
    exact (Owner.Tracks.new window start' a).answers ts'

end AlarmKeypad.Gesture
