import AlarmKeypad.Proofs.Gesture
/-!
# The order in which silence cancels

The counters that taps have left stand in a queue, by their deadlines. Without a tap, the queue only
loses its head, to a wait that reports it.
-/

namespace AlarmKeypad.Gesture

/-! ## Runs and what they report -/

def Tapless (ts : List Turn) : Prop := ∀ a, .tap a ∉ ts

namespace Owner

def run (o : Owner) (ts : List Turn) : Owner := ts.foldl turn o

def report? (o : Owner) : Turn → Option (Nat × AlarmAction)
  | .poll fires =>
    match o.wait with
    | some w => (o.confirmer.poll o.now fires w).1.map (o.now, ·)
    | none => none
  | .await ms => (o.confirmer.awaitCancellation o.now (o.now + ms)).1.map ((o.await ms).now, ·)
  | _ => none

def reports (o : Owner) : List Turn → List (Nat × AlarmAction)
  | [] => []
  | t :: ts => (o.report? t).toList ++ (o.turn t).reports ts

@[simp]
theorem run_nil (o : Owner) : o.run [] = o := rfl

@[simp]
theorem run_cons (o : Owner) (t : Turn) (ts : List Turn) : o.run (t :: ts) = (o.turn t).run ts :=
  rfl

theorem run_append (o : Owner) (ts us : List Turn) : o.run (ts ++ us) = (o.run ts).run us :=
  List.foldl_append

end Owner

/-! ## The queue -/

def rank : AlarmAction → Nat
  | .panic => 0
  | .fire => 1
  | .aux => 2

/-- One deadline is before another. At one time panic comes first, then fire. -/
def Before (p q : Nat × AlarmAction) : Prop := p.1 < q.1 ∨ p.1 = q.1 ∧ rank p.2 < rank q.2

theorem Before.of_not {p q : Nat × AlarmAction} (h : ¬Before q p) (hne : q.2 ≠ p.2) :
    Before p q := by
  have hrank : rank q.2 ≠ rank p.2 := by
    intro heq
    cases hq : q.2 <;> cases hp : p.2 <;> simp_all [rank]
  unfold Before at h ⊢
  omega

section
variable {x y : Option (Nat × AlarmAction)} {p q : Nat × AlarmAction}

theorem earlier_eq_none (h : GestureConfirmer.earlier x y = none) : x = none ∧ y = none := by
  unfold GestureConfirmer.earlier at h
  split at h
  · exact ⟨rfl, h⟩
  · exact ⟨h, rfl⟩
  · split at h <;> exact nomatch h

/-- The earlier of two deadlines has neither before it, if the first goes first in a tie. -/
theorem earlier_first (hrank : ∀ u v, x = some u → y = some v → rank u.2 < rank v.2)
    (h : GestureConfirmer.earlier x y = some p) (hq : x = some q ∨ y = some q) : ¬Before q p := by
  unfold GestureConfirmer.earlier at h
  split at h
  · obtain rfl : q = p := Option.some.inj ((hq.resolve_left nofun).symm.trans h)
    simp [Before]
  · obtain rfl : q = p := Option.some.inj ((hq.resolve_right nofun).symm.trans h)
    simp [Before]
  case h_3 d a e b =>
    have hab := hrank (d, a) (e, b) rfl rfl
    simp only at hab
    split at h <;> cases h <;> rcases hq with hq | hq <;> cases hq <;> simp [Before] <;> omega

end

section
variable {g : GestureConfirmer} {a b : AlarmAction} {d e : Nat}

theorem deadlineOf_of_deadline (h : (g.counter a).deadline = some d) :
    g.deadlineOf a = some (d, a) := by
  rw [GestureConfirmer.deadlineOf, h, Option.map_some]

theorem action_of_deadlineOf {q : Nat × AlarmAction} (h : g.deadlineOf a = some q) : q.2 = a := by
  obtain ⟨d, -, rfl⟩ := Option.map_eq_some_iff.mp h
  rfl

theorem nextDeadline_eq_none (h : g.nextDeadline = none) (a : AlarmAction) :
    (g.counter a).deadline = none := by
  obtain ⟨hfirst, haux⟩ := earlier_eq_none h
  obtain ⟨hpanic, hfire⟩ := earlier_eq_none hfirst
  cases a with
  | panic => exact Option.map_eq_none_iff.mp hpanic
  | fire => exact Option.map_eq_none_iff.mp hfire
  | aux => exact Option.map_eq_none_iff.mp haux

/-- The next deadline has none before it. -/
theorem nextDeadline_first {p : Nat × AlarmAction} (h : g.nextDeadline = some p)
    (hb : (g.counter b).deadline = some e) : ¬Before (e, b) p := by
  have hb := deadlineOf_of_deadline hb
  have hpair : ∀ u v, g.deadlineOf .panic = some u → g.deadlineOf .fire = some v →
      rank u.2 < rank v.2 := by
    intro u v hu hv
    rw [action_of_deadlineOf hu, action_of_deadlineOf hv]
    decide
  have hlast : ∀ u v, GestureConfirmer.earlier (g.deadlineOf .panic) (g.deadlineOf .fire) = some u →
      g.deadlineOf .aux = some v → rank u.2 < rank v.2 := by
    intro u v hu hv
    rw [action_of_deadlineOf hv]
    rcases earlier_eq_some hu with hu | hu <;> rw [action_of_deadlineOf hu] <;> decide
  -- panic and fire meet aux through the earlier of the two
  have hthrough (hq : g.deadlineOf .panic = some (e, b) ∨ g.deadlineOf .fire = some (e, b)) :
      ¬Before (e, b) p := by
    cases hr : GestureConfirmer.earlier (g.deadlineOf .panic) (g.deadlineOf .fire) with
    | none => simp [earlier_eq_none hr] at hq
    | some r =>
      have hqr := earlier_first hpair hr hq
      have hrp := earlier_first hlast h (.inl hr)
      unfold Before at hqr hrp ⊢
      omega
  cases b with
  | panic => exact hthrough (.inl hb)
  | fire => exact hthrough (.inr hb)
  | aux => exact earlier_first hlast h (.inr hb)

theorem confirmer_ext {g g' : GestureConfirmer} (hwindow : g.window = g'.window)
    (h : ∀ a, g.counter a = g'.counter a) : g = g' := by
  obtain ⟨window, panic, fire, aux⟩ := g
  obtain rfl : window = g'.window := hwindow
  obtain rfl : panic = g'.panic := h .panic
  obtain rfl : fire = g'.fire := h .fire
  obtain rfl : aux = g'.aux := h .aux
  rfl

/-- The actions whose counters have a deadline. -/
def armed (g : GestureConfirmer) : List AlarmAction :=
  AlarmAction.all.filter fun a => (g.counter a).deadline.isSome

theorem counter_cancel (g : GestureConfirmer) (a b : AlarmAction) :
    (g.cancel a).counter b = if a = b then .zero else g.counter b :=
  g.counter_setCounter a b .zero

theorem length_armed_cancel (h : (g.counter a).deadline = some d) :
    (armed (g.cancel a)).length < (armed g).length := by
  have hfilter : armed (g.cancel a) = (armed g).filter (· ≠ a) := by
    rw [armed, armed, List.filter_filter]
    refine List.filter_congr fun b _ => ?_
    rw [counter_cancel]
    by_cases hb : a = b <;> simp [hb, eq_comm, TapCounter.zero]
  rw [hfilter, List.length_filter_lt_length_iff_exists]
  refine ⟨a, List.mem_filter.mpr ⟨a.mem_all, ?_⟩, by simp⟩
  rw [h]
  rfl

def queue (g : GestureConfirmer) : List (Nat × AlarmAction) :=
  match _h : g.nextDeadline with
  | some (d, a) => (d, a) :: queue (g.cancel a)
  | none => []
termination_by (armed g).length
decreasing_by exact length_armed_cancel (nextDeadline_eq_some _h)

theorem queue_of_some (h : g.nextDeadline = some (d, a)) :
    queue g = (d, a) :: queue (g.cancel a) := by
  rw [queue]
  split <;> simp_all

theorem queue_of_none (h : g.nextDeadline = none) : queue g = [] := by
  rw [queue]
  split <;> simp_all

/-- The queue holds every deadline. -/
theorem mem_queue : (e, b) ∈ queue g ↔ (g.counter b).deadline = some e := by
  induction g using queue.induct with
  | case1 g d a hnext ih =>
    rw [queue_of_some hnext, List.mem_cons, ih, counter_cancel]
    have ha := nextDeadline_eq_some hnext
    by_cases hab : a = b
    · subst hab
      simp [ha, TapCounter.zero, eq_comm]
    · simp [hab, Ne.symm hab]
  | case2 g hnext => simp [queue_of_none hnext, nextDeadline_eq_none hnext b]

/-- The next deadline is the least. -/
theorem le_of_mem_queue {q : Nat × AlarmAction} (h : g.nextDeadline = some (d, a))
    (hq : q ∈ queue g) : d ≤ q.1 := by
  have hfirst := nextDeadline_first h (mem_queue.mp hq)
  unfold Before at hfirst
  omega

theorem queue_of_lt {limit : Nat} (h : ∀ d a, g.nextDeadline = some (d, a) → limit < d) :
    (queue g).filter (·.1 ≤ limit) = [] := by
  rw [List.filter_eq_nil_iff]
  intro q hq
  cases hnext : g.nextDeadline with
  | none => exact nomatch queue_of_none hnext ▸ hq
  | some p =>
    have hlt := Nat.lt_of_lt_of_le (h _ _ hnext) (le_of_mem_queue hnext hq)
    simpa using hlt

theorem queue_ordered (g : GestureConfirmer) : (queue g).Pairwise Before := by
  induction g using queue.induct with
  | case1 g d a hnext ih =>
    rw [queue_of_some hnext]
    refine List.pairwise_cons.mpr ⟨fun x hx => ?_, ih⟩
    have hx := mem_queue.mp hx
    rw [counter_cancel] at hx
    split at hx
    case isTrue => exact nomatch hx
    case isFalse hne => exact .of_not (nextDeadline_first hnext hx) (Ne.symm hne)
  | case2 g hnext => exact queue_of_none hnext ▸ .nil

theorem queue_nodup (g : GestureConfirmer) : ((queue g).map Prod.snd).Nodup := by
  induction g using queue.induct with
  | case1 g d a hnext ih =>
    rw [queue_of_some hnext, List.map_cons]
    refine List.nodup_cons.mpr ⟨fun ha => ?_, ih⟩
    obtain ⟨⟨e, b⟩, hmem, rfl⟩ := List.mem_map.mp ha
    have hdue := mem_queue.mp hmem
    rw [counter_cancel, if_pos rfl] at hdue
    exact nomatch hdue
  | case2 g hnext => exact queue_of_none hnext ▸ .nil

end

/-! ## One turn -/

namespace Owner
variable {o : Owner} {t : Turn} {ts : List Turn} {a : AlarmAction} {d ms : Nat}

/-- A wait that has been looked at is for the head of the queue. -/
def Foresees (o : Owner) : Prop :=
  ∀ d a, o.wait = some (.pending d a) → o.confirmer.nextDeadline = some (d, a)

/-- A turn that reports nothing and leaves the counters. -/
def Keeps (o : Owner) (t : Turn) : Prop :=
  o.report? t = none ∧ (o.turn t).confirmer = o.confirmer

/-- A turn that reports the head of the queue, which is due, and resets its counter. -/
def Takes (o : Owner) (t : Turn) : Prop :=
  ∃ d a, o.confirmer.nextDeadline = some (d, a) ∧ d ≤ (o.turn t).now ∧
    o.report? t = some ((o.turn t).now, a) ∧ (o.turn t).confirmer = o.confirmer.cancel a

/-- A look at a timer for the head of the queue. -/
theorem look_cases {w : Wait} {fires : Bool} (hw : o.wait = some w)
    (hnext : o.confirmer.nextDeadline = some (d, a))
    (hpoll : o.confirmer.poll o.now fires w = o.confirmer.pollTimer o.now fires d a) :
    (o.poll fires).Foresees ∧ (o.Keeps (.poll fires) ∨ o.Takes (.poll fires)) := by
  unfold GestureConfirmer.pollTimer at hpoll
  split at hpoll
  case isTrue hdue =>
    refine ⟨?_, .inr ⟨d, a, hnext, ?_⟩⟩ <;>
      simp [Foresees, Owner.poll, report?, turn, hw, hpoll, hdue.2]
  case isFalse =>
    refine ⟨?_, .inl ⟨?_, ?_⟩⟩ <;>
      simp [Foresees, Owner.poll, report?, turn, hw, hpoll, hnext]

theorem poll_cases (h : o.Foresees) (fires : Bool) :
    (o.poll fires).Foresees ∧ (o.Keeps (.poll fires) ∨ o.Takes (.poll fires)) := by
  cases hw : o.wait with
  | none =>
    have hpoll : o.poll fires = o := by rw [Owner.poll, hw]
    exact ⟨by rwa [hpoll], .inl ⟨by rw [report?, hw], congrArg confirmer hpoll⟩⟩
  | some w =>
    cases w with
    | fresh =>
      cases hnext : o.confirmer.nextDeadline with
      | none =>
        refine ⟨?_, .inl ⟨?_, ?_⟩⟩ <;>
          simp [Foresees, Owner.poll, report?, turn, hw, GestureConfirmer.poll, hnext]
      | some p => exact look_cases hw hnext (by rw [GestureConfirmer.poll, hnext])
    | pending d a => exact look_cases hw (h d a hw) rfl
    | idle | finished =>
      refine ⟨?_, .inl ⟨?_, ?_⟩⟩ <;>
        simp [Foresees, Owner.poll, report?, turn, hw, GestureConfirmer.poll]

/-- A wait that gives up before the next deadline. -/
theorem await_of_lt (h : ∀ d a, o.confirmer.nextDeadline = some (d, a) → o.now + ms < d) :
    o.report? (.await ms) = none ∧ o.await ms = ⟨o.now + ms, o.confirmer, none⟩ := by
  cases hnext : o.confirmer.nextDeadline with
  | none => simp [report?, await, GestureConfirmer.awaitCancellation, hnext]
  | some p =>
    have hlt : ¬p.1 ≤ o.now + ms := Nat.not_le.mpr (h _ _ hnext)
    simp [report?, await, GestureConfirmer.awaitCancellation, hnext, hlt]

/-- A wait that meets the next deadline. -/
theorem await_of_le (h : o.confirmer.nextDeadline = some (d, a)) (hd : d ≤ o.now + ms) :
    o.report? (.await ms) = some (max o.now d, a) ∧
      o.await ms = ⟨max o.now d, o.confirmer.cancel a, none⟩ := by
  simp [report?, await, GestureConfirmer.awaitCancellation, h, hd]

theorem await_cases (o : Owner) (ms : Nat) : o.Keeps (.await ms) ∨ o.Takes (.await ms) := by
  by_cases h : ∃ d a, o.confirmer.nextDeadline = some (d, a) ∧ d ≤ o.now + ms
  · obtain ⟨d, a, hnext, hd⟩ := h
    obtain ⟨hreport, hawait⟩ := await_of_le hnext hd
    refine .inr ⟨d, a, hnext, ?_⟩
    rw [turn, hawait]
    exact ⟨Nat.le_max_right .., hreport, rfl⟩
  · obtain ⟨hreport, hawait⟩ := await_of_lt fun d a hnext =>
      Nat.lt_of_not_le fun hd => h ⟨d, a, hnext, hd⟩
    exact .inl ⟨hreport, by rw [turn, hawait]⟩

theorem Foresees.turn (h : o.Foresees) (t : Turn) : (o.turn t).Foresees := by
  cases t with
  | elapse ms => exact h
  | poll fires => exact (poll_cases h fires).1
  | tap a | drop | await ms => exact nofun
  | begin => exact nofun

theorem Foresees.run (h : o.Foresees) (ts : List Turn) : (o.run ts).Foresees := by
  induction ts generalizing o with
  | nil => exact h
  | cons t ts ih => exact ih (h.turn t)

theorem foresees_new (window start : Nat) : (Owner.new window start).Foresees := nofun

/-- A turn that is no tap leaves the queue, or it reports the head. -/
theorem keeps_or_takes (h : o.Foresees) (ht : ∀ a, t ≠ .tap a) : o.Keeps t ∨ o.Takes t := by
  cases t with
  | elapse ms | begin | drop => exact .inl ⟨rfl, rfl⟩
  | tap a => exact absurd rfl (ht a)
  | poll fires => exact (poll_cases h fires).2
  | await ms => exact o.await_cases ms

theorem now_le_turn (o : Owner) (t : Turn) : o.now ≤ (o.turn t).now := by
  cases t with
  | elapse ms => exact Nat.le_add_right ..
  | tap a | begin | drop => exact Nat.le_refl _
  | poll fires =>
    simp only [Owner.turn, Owner.poll]
    split <;> exact Nat.le_refl _
  | await ms =>
    obtain ⟨k, hk⟩ := o.await_eq ms
    have hnow : (o.await ms).now = o.now + k := by
      rw [hk]
      rfl
    exact hnow ▸ Nat.le_add_right ..

/-! ## Turns without a tap -/

/-- Turns without a tap take from the queue by its order, none before it is due, and leave the
counters that they do not report. -/
structure Drains (o : Owner) (ts : List Turn) : Prop where
  order : (o.reports ts).map Prod.snd <+: (queue o.confirmer).map Prod.snd
  timely : ∀ t d a, (t, a) ∈ o.reports ts → (o.confirmer.counter a).deadline = some d →
    max o.now d ≤ t
  counters : ∀ a, (o.run ts).confirmer.counter a =
    if a ∈ (o.reports ts).map Prod.snd then .zero else o.confirmer.counter a

theorem Drains.of_keeps (h : o.Keeps t) (hrest : (o.turn t).Drains ts) : o.Drains (t :: ts) := by
  obtain ⟨hreport, hconfirmer⟩ := h
  have hreports : o.reports (t :: ts) = (o.turn t).reports ts := by rw [reports, hreport]; rfl
  obtain ⟨horder, htimely, hcounters⟩ := hrest
  rw [hconfirmer] at horder htimely hcounters
  have hnow := o.now_le_turn t
  refine ⟨hreports ▸ horder, fun s d a hmem hd => ?_, fun a => hreports ▸ hcounters a⟩
  have := htimely s d a (hreports ▸ hmem) hd
  omega

theorem Drains.of_takes (h : o.Takes t) (hrest : (o.turn t).Drains ts) : o.Drains (t :: ts) := by
  obtain ⟨e, b, hnext, hdue, hreport, hconfirmer⟩ := h
  have hreports : o.reports (t :: ts) = ((o.turn t).now, b) :: (o.turn t).reports ts := by
    rw [reports, hreport]
    rfl
  obtain ⟨horder, htimely, hcounters⟩ := hrest
  rw [hconfirmer] at horder htimely hcounters
  have hnow := o.now_le_turn t
  refine ⟨?_, fun s d a hmem hd => ?_, fun a => ?_⟩
  · rw [hreports, queue_of_some hnext]
    exact List.cons_prefix_cons.mpr ⟨rfl, horder⟩
  · rw [hreports] at hmem
    rcases List.mem_cons.mp hmem with heq | hmem
    · obtain ⟨rfl, rfl⟩ := Prod.mk.inj heq
      have hde := hd.symm.trans (nextDeadline_eq_some hnext)
      cases hde
      omega
    · -- the head is reported once, so this is another action
      have hqueue := horder.subset (List.mem_map_of_mem hmem)
      obtain ⟨⟨c, a⟩, hc, rfl⟩ := List.mem_map.mp hqueue
      have hc := mem_queue.mp hc
      rw [counter_cancel] at hc
      split at hc
      case isTrue => exact nomatch hc
      case isFalse hne =>
        have := htimely s d a hmem (by rwa [counter_cancel, if_neg hne])
        omega
  · rw [run_cons, hcounters a, hreports, counter_cancel, List.map_cons]
    by_cases hab : b = a
    · simp [hab]
    · simp only [List.mem_cons, Ne.symm hab, false_or, if_neg hab]

theorem drains (h : o.Foresees) (hts : Tapless ts) : o.Drains ts := by
  induction ts generalizing o with
  | nil => exact ⟨List.nil_prefix, nofun, fun _ => rfl⟩
  | cons t ts ih =>
    have hrest := ih (h.turn t) fun a ha => hts a (List.mem_cons_of_mem _ ha)
    rcases keeps_or_takes h fun a ha => hts a (ha ▸ List.mem_cons_self) with hkeeps | htakes
    · exact .of_keeps hkeeps hrest
    · exact .of_takes htakes hrest

/-! ## One wait after another -/

/-- Waits for one cancellation after another until a time, which one due exactly then still
meets. -/
def waits (o : Owner) (limit : Nat) : List Turn :=
  if (o.report? (.await (limit - o.now))).isSome then
    .await (limit - o.now) :: (o.await (limit - o.now)).waits limit
  else [.await (limit - o.now)]
termination_by (armed o.confirmer).length
decreasing_by
  rename_i hsome
  rcases o.await_cases (limit - o.now) with ⟨hreport, -⟩ | ⟨d, a, hnext, -, -, hconfirmer⟩
  · rw [hreport] at hsome
    exact nomatch hsome
  · have hlt := length_armed_cancel (nextDeadline_eq_some hnext)
    rwa [← hconfirmer] at hlt

section
variable {limit : Nat}

theorem waits_of_le (hnow : o.now ≤ limit) (h : o.confirmer.nextDeadline = some (d, a))
    (hd : d ≤ limit) : ∃ ms,
      o.waits limit = .await ms :: (o.await ms).waits limit ∧
        o.report? (.await ms) = some (max o.now d, a) ∧
        o.await ms = ⟨max o.now d, o.confirmer.cancel a, none⟩ := by
  have hmeets : d ≤ o.now + (limit - o.now) := by omega
  obtain ⟨hreport, hawait⟩ := await_of_le h hmeets
  refine ⟨limit - o.now, ?_, hreport, hawait⟩
  rw [waits, if_pos (by rw [hreport]; rfl)]

theorem waits_of_lt (hnow : o.now ≤ limit)
    (h : ∀ d a, o.confirmer.nextDeadline = some (d, a) → limit < d) :
    Tapless (o.waits limit) ∧ o.reports (o.waits limit) = [] ∧
      o.run (o.waits limit) = ⟨limit, o.confirmer, none⟩ := by
  have hlimit : o.now + (limit - o.now) = limit := by omega
  have hlater : ∀ d a, o.confirmer.nextDeadline = some (d, a) → o.now + (limit - o.now) < d := by
    rwa [hlimit]
  obtain ⟨hreport, hawait⟩ := await_of_lt hlater
  rw [hlimit] at hawait
  have hwaits : o.waits limit = [.await (limit - o.now)] := by
    rw [waits, if_neg (by rw [hreport]; exact Bool.false_ne_true)]
  rw [hwaits]
  exact ⟨fun a ha => (nomatch List.mem_singleton.mp ha), by rw [reports, hreport]; rfl, hawait⟩

/-- Waiting goes by the deadlines that come up to the limit. -/
@[elab_as_elim]
theorem waits_induction {motive : (o : Owner) → o.now ≤ limit → Prop}
    (more : ∀ o hnow d a, o.confirmer.nextDeadline = some (d, a) → (hd : d ≤ limit) →
      motive ⟨max o.now d, o.confirmer.cancel a, none⟩ (Nat.max_le.mpr ⟨hnow, hd⟩) → motive o hnow)
    (last : ∀ o hnow, (∀ d a, o.confirmer.nextDeadline = some (d, a) → limit < d) →
      motive o hnow)
    (o : Owner) (hnow : o.now ≤ limit) : motive o hnow := by
  by_cases h : ∃ d a, o.confirmer.nextDeadline = some (d, a) ∧ d ≤ limit
  · obtain ⟨d, a, hnext, hd⟩ := h
    exact more o hnow d a hnext hd (waits_induction more last _ (Nat.max_le.mpr ⟨hnow, hd⟩))
  · exact last o hnow fun d a hnext => Nat.lt_of_not_le fun hd => h ⟨d, a, hnext, hd⟩
termination_by (armed o.confirmer).length
decreasing_by exact length_armed_cancel (nextDeadline_eq_some hnext)

theorem tapless_waits (o : Owner) (hnow : o.now ≤ limit) : Tapless (o.waits limit) := by
  induction o, hnow using waits_induction with
  | more o hnow d a hnext hd ih =>
    obtain ⟨ms, hwaits, -, hawait⟩ := waits_of_le hnow hnext hd
    rw [hwaits, hawait]
    exact fun b hb => ih b ((List.mem_cons.mp hb).resolve_left nofun)
  | last o hnow h => exact (waits_of_lt hnow h).1

/-- The waits end at the limit, and leave nothing that was due by then. -/
theorem run_waits (hnow : o.now ≤ limit) :
    (o.run (o.waits limit)).now = limit ∧
      ∀ d a, (o.run (o.waits limit)).confirmer.nextDeadline = some (d, a) → limit < d := by
  induction o, hnow using waits_induction with
  | more o hnow d a hnext hd ih =>
    obtain ⟨ms, hwaits, -, hawait⟩ := waits_of_le hnow hnext hd
    rwa [hwaits, run_cons, turn, hawait]
  | last o hnow h => exact (waits_of_lt hnow h).2.2 ▸ ⟨rfl, h⟩

/-- The waits report the queue up to the limit, each action at its deadline, or at once. -/
theorem reports_waits (hnow : o.now ≤ limit) :
    o.reports (o.waits limit) =
      ((queue o.confirmer).filter (·.1 ≤ limit)).map fun q => (max o.now q.1, q.2) := by
  induction o, hnow using waits_induction with
  | more o hnow d a hnext hd ih =>
    obtain ⟨ms, hwaits, hreport, hawait⟩ := waits_of_le hnow hnext hd
    rw [queue_of_some hnext, hwaits, reports, hreport, turn, hawait, ih,
      List.filter_cons_of_pos (by simpa using hd), List.map_cons, Option.toList_some,
      List.singleton_append]
    refine congrArg _ (List.map_congr_left fun q hq => ?_)
    have hle := le_of_mem_queue hnext
      (queue_of_some hnext ▸ List.mem_cons_of_mem _ (List.mem_filter.mp hq).1)
    have hmax : max (max o.now d) q.1 = max o.now q.1 := by omega
    exact congrArg (Prod.mk · q.2) hmax
  | last o hnow h => rw [(waits_of_lt hnow h).2.1, queue_of_lt h, List.map_nil]

/-- A look at a new wait reports the head of the queue, if it is due. -/
theorem reports_look (o : Owner) (ms : Nat) :
    o.reports [.elapse ms, .begin, .poll true] =
      (((queue o.confirmer).filter (·.1 ≤ o.now + ms)).take 1).map fun q => (o.now + ms, q.2) := by
  cases hnext : o.confirmer.nextDeadline with
  | none =>
    simp [reports, report?, turn, GestureConfirmer.poll, hnext, queue_of_none hnext]
  | some p =>
    by_cases hd : p.1 ≤ o.now + ms
    · simp [reports, report?, turn, GestureConfirmer.poll, GestureConfirmer.pollTimer, hnext, hd,
        queue_of_some hnext]
    · have hlt : ∀ d a, o.confirmer.nextDeadline = some (d, a) → o.now + ms < d := by
        rintro d a h
        cases hnext.symm.trans h
        exact Nat.lt_of_not_le hd
      simp [reports, report?, turn, GestureConfirmer.poll, GestureConfirmer.pollTimer, hnext, hd,
        queue_of_lt hlt]

end

/-! ## Every state -/

/-- What the taps so far have left. -/
theorem Tracks.run {window n prev : Nat} (h : o.Tracks window a n prev) (ts : List Turn) :
    ∃ m, (o.run ts).Tracks window a m ((o.tapTimes a ts).getLastD prev) ∧
      (o.tapTimes a ts = [] → m = n) := by
  induction ts generalizing o n prev with
  | nil => exact ⟨n, h, fun _ => rfl⟩
  | cons t ts ih =>
    rw [run_cons, tapTimes]
    by_cases ht : t = .tap a
    · subst ht
      obtain ⟨m, hm, -⟩ := ih h.tap.2
      rw [if_pos rfl, List.getLastD_cons]
      exact ⟨m, hm, nofun⟩
    · rw [if_neg ht]
      exact ih (h.turn_of_ne ht)

theorem window_run (window start : Nat) (ts : List Turn) :
    ((Owner.new window start).run ts).confirmer.window = window := by
  obtain ⟨_, h, -⟩ := (Tracks.new window start .panic).run ts
  exact h.window_eq

/-- A counter that taps have left is at zero, or it waits since the last of them. -/
theorem counter_run (window start : Nat) (ts : List Turn) (a : AlarmAction) :
    let c := ((Owner.new window start).run ts).confirmer.counter a
    c = .zero ∨ ∃ t, ((Owner.new window start).tapTimes a ts).getLast? = some t ∧
      0 < c.count ∧ c.count ≤ 2 ∧ c.deadline = some (t + window) := by
  intro c
  obtain ⟨m, hm, hnone⟩ := (Tracks.new window start a).run ts
  by_cases hzero : m = 0
  · exact .inl (hm.agrees.eq_zero hzero)
  · rcases hm.agrees.eq (Nat.pos_of_ne_zero hzero) with hc | ⟨hc, -⟩
    · have hle := hm.agrees.le
      have hlast := List.getLast?_eq_some_getLast fun h => hzero (hnone h)
      refine .inr ⟨_, hlast, ?_⟩
      have hcount : c = _ := hc
      rw [List.getLastD_eq_getLast?, hlast, Option.getD_some] at hcount
      rw [hcount]
      exact ⟨Nat.pos_of_ne_zero hzero, hle, rfl⟩
    · exact .inl hc

end Owner

/-- Silence cancels in order, and completely. From every state that turns lead to, the actions with
taps stand in a line by their deadlines, which are a window after the last tap. Waiting reports them
one after another, each at its deadline, or at once if that has passed, and a look at a wait reports
the first if it is due. However the owner goes on without a tap, it hears of them in this order,
never early, and what it has not heard of stays as it was; nothing is left to hear when no action
has taps. A wait given up before it reports leaves nothing behind but the time. -/
theorem cancellations_ordered (window start : Nat) (ts : List Turn) :
    let o := (Owner.new window start).run ts
    ∃ line : List (Nat × AlarmAction),
      line.Pairwise Before ∧ (line.map Prod.snd).Nodup ∧
      (∀ d a, (d, a) ∈ line ↔ o.confirmer.count a ≠ 0 ∧
        ((Owner.new window start).tapTimes a ts).getLast?.map (· + window) = some d) ∧
      (∀ d a, (d, a) ∈ line ↔ (o.confirmer.counter a).deadline = some d) ∧
      (∀ ms, o.reports (o.waits (o.now + ms)) =
        (line.filter (·.1 ≤ o.now + ms)).map fun q => (max o.now q.1, q.2)) ∧
      (∀ ms, o.reports [.elapse ms, .begin, .poll true] =
        ((line.filter (·.1 ≤ o.now + ms)).take 1).map fun q => (o.now + ms, q.2)) ∧
      (∀ us, Tapless us →
        (o.reports us).map Prod.snd <+: line.map Prod.snd ∧
        (∀ t d a, (t, a) ∈ o.reports us → (d, a) ∈ line → max o.now d ≤ t) ∧
        (∀ a, (o.run us).confirmer.counter a =
          if a ∈ (o.reports us).map Prod.snd then .zero else o.confirmer.counter a) ∧
        (o.reports us = [] →
          o.run (us ++ [.drop]) = { o with now := (o.run us).now, wait := none })) ∧
      ((∀ a, o.confirmer.count a = 0) → ∀ us, Tapless us → o.reports us = []) := by
  intro o
  have hforesees : o.Foresees := (Owner.foresees_new window start).run ts
  have hdue (d : Nat) (a : AlarmAction) : (o.confirmer.counter a).deadline = some d ↔
      o.confirmer.count a ≠ 0 ∧
        ((Owner.new window start).tapTimes a ts).getLast?.map (· + window) = some d := by
    rw [GestureConfirmer.count]
    rcases Owner.counter_run window start ts a with hzero | ⟨t, hlast, hpos, -, hdeadline⟩
    · rw [hzero]
      exact ⟨nofun, fun h => absurd rfl h.1⟩
    · rw [hlast, hdeadline]
      exact ⟨fun h => ⟨Nat.ne_of_gt hpos, h⟩, fun h => h.2⟩
  refine ⟨queue o.confirmer, queue_ordered _, queue_nodup _, fun d a => mem_queue.trans (hdue d a),
    fun _ _ => mem_queue, fun ms => Owner.reports_waits (Nat.le_add_right ..), o.reports_look,
    fun us hus => ?_, fun hnone us hus => ?_⟩
  · obtain ⟨horder, htimely, hcounters⟩ := Owner.drains hforesees hus
    refine ⟨horder, fun t d a ht hd => htimely t d a ht (mem_queue.mp hd), hcounters,
      fun hsilent => ?_⟩
    have hsame : (o.run us).confirmer = o.confirmer := by
      refine confirmer_ext ?_ fun a => ?_
      · rw [← Owner.run_append, Owner.window_run, Owner.window_run]
      · rw [hcounters, hsilent]
        rfl
    rw [Owner.run_append, Owner.run_cons, Owner.run_nil, Owner.turn, hsame]
  · have hempty : queue o.confirmer = [] := by
      refine List.eq_nil_iff_forall_not_mem.mpr fun q hq => ?_
      exact ((hdue q.1 q.2).mp (mem_queue.mp hq)).1 (hnone q.2)
    have horder := (Owner.drains hforesees hus).order
    rw [hempty] at horder
    exact List.map_eq_nil_iff.mp (List.prefix_nil.mp horder)

example : (Owner.new 10 0).reports [.tap .fire, .tap .panic, .await 20, .await 20] =
    [(10, .panic), (10, .fire)] := by decide

end AlarmKeypad.Gesture
