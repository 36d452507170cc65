import AlarmKeypad.Proofs.Session.Acceptance
import AlarmKeypad.Proofs.Session.Handle
/-!
# Callers in the middle of a poll

Where a session waits for several things it tries them in turn, a call for shutdown first. A move
there is a whole poll: calls come while the session waits, as they do when it and its callers take
turns on one thread. Callers on other threads may come between the look for a call and the rest of
the poll. Here the two are steps of their own, and every step of a caller may stand between them.
-/

namespace AlarmKeypad.Session

/-- Whether the session looks for a call for shutdown here before it tries the rest. -/
def Phase.polls : Phase → Bool
  | .dialing | .opening | .live _ | .resting _ => true
  | _ => false

namespace State

/-- A poll that has found no call for shutdown goes on as if there were none, whatever has come. -/
def pollRest? (s : State) : Move → Option State
  | .elapse _ | .call _ | .resume _ => none
  | m => (move? { s with cancelled := false } m).map fun s' => { s' with cancelled := s.cancelled }

end State

/-- A keypad, and whether its session is in the middle of a poll: it has found no call for shutdown
and has yet to try the rest. -/
structure Polled where
  state : State
  polling : Bool
deriving DecidableEq

inductive Slice where
  /-- The session begins a poll and finds no call for shutdown. -/
  | look
  | turn (t : Turn)
deriving DecidableEq

def Slice.turn? : Slice → Option Turn
  | .look => none
  | .turn t => some t

namespace Polled

def init (k : KeypadSettings) : Polled := ⟨.init k, false⟩

/-- A connection that the session begins to open is tried in the same poll; a poll that comes to
nothing is over too. -/
def finish? (s : State) (m : Move) : Option Polled :=
  match s.pollRest? m with
  | some s' => some ⟨s', s'.phase = .opening⟩
  | none => if m = .act then some ⟨s, false⟩ else none

def slice? (p : Polled) : Slice → Option Polled
  | .look =>
    if p.polling = false ∧ p.state.phase.polls = true ∧ p.state.cancelled = false then
      some { p with polling := true }
    else none
  | .turn t =>
    if p.polling = false then (p.state.turn? t).map (⟨·, false⟩)
    else match t with
      | .late _ | .move (.call _) | .move (.resume _) => (p.state.turn? t).map (⟨·, true⟩)
      | .move m => finish? p.state m

def slice (p : Polled) (b : Slice) : Polled := (p.slice? b).getD p

def run (p : Polled) (bs : List Slice) : Polled := bs.foldl slice p

def call (p : Polled) (r : Request) : Polled := { p with state := p.state.call r }

variable {p p' : Polled} {b : Slice} {s s' : State} {m : Move}

@[simp] theorem run_nil (p : Polled) : p.run [] = p := rfl

@[simp] theorem run_cons (p : Polled) (b : Slice) (bs : List Slice) :
    p.run (b :: bs) = (p.slice b).run bs := rfl

theorem run_append (p : Polled) (bs cs : List Slice) : p.run (bs ++ cs) = (p.run bs).run cs :=
  List.foldl_append

theorem slice_eq (h : p.slice? b = some p') : p.slice b = p' := by
  simp [slice, h]

theorem slice_eq_self (h : p.slice? b = none) : p.slice b = p := by
  simp [slice, h]

/-- What every possible slice keeps holds after a run. -/
theorem run_induction {P : Polled → Prop} (step : ∀ p b p', P p → p.slice? b = some p' → P p')
    (h : P p) (bs : List Slice) : P (p.run bs) := by
  induction bs generalizing p with
  | nil => exact h
  | cons b bs ih =>
    apply ih
    cases hb : p.slice? b with
    | none => exact (slice_eq_self hb).symm ▸ h
    | some u => exact (slice_eq hb).symm ▸ step p b u h hb

theorem slice_call (p : Polled) (r : Request) : p.slice (.turn (.move (.call r))) = p.call r := by
  obtain ⟨s, _ | _⟩ := p <;> rfl

/-! ## Whole moves -/

/-- Outside a poll a turn is what it is for the keypad alone. -/
theorem slice_turn (s : State) (t : Turn) : (mk s false).slice (.turn t) = ⟨s.turn t, false⟩ := by
  unfold slice State.turn
  cases h : s.turn? t <;> simp [slice?, h]

/-- Runs of whole moves are among the runs here. -/
theorem run_turns (s : State) (ts : List Turn) :
    (mk s false).run (ts.map .turn) = ⟨s.run ts, false⟩ := by
  induction ts generalizing s with
  | nil => rfl
  | cons t ts ih => rw [List.map_cons, run_cons, slice_turn, ih, State.run_cons]

/-- Once the session has been told to stop no look finds nothing, so the runs are those of whole
moves from then on. -/
theorem run_of_told {p : Polled} (hp : p.polling = false) (hc : p.state.cancelled = true)
    (bs : List Slice) : p.run bs = ⟨p.state.run (bs.filterMap Slice.turn?), false⟩ := by
  obtain ⟨s, polling⟩ := p
  obtain rfl : polling = false := hp
  induction bs generalizing s with
  | nil => rfl
  | cons b bs ih =>
    cases b with
    | look =>
      have hlook : (mk s false).slice? .look = none := by
        change s.cancelled = true at hc
        simp [slice?, hc]
      rw [run_cons, slice_eq_self hlook]
      exact ih s hc
    | turn t =>
      have hc' : (s.turn t).cancelled = true := State.cancelled_run hc [t]
      rw [run_cons, slice_turn]
      exact ih (s.turn t) hc'

end Polled

/-! ## What the rest of a poll does -/

namespace State

/-- What a session does, or the device at its poll, that has found no call for shutdown. -/
inductive Tries (s : State) : Move → State → Prop
  | attempt (hp : s.phase = .dialing) :
      Tries s .act (({ s with attempts := s.attempts + 1 }.record
        (.attempted (s.attempts + 1))).goTo .opening)
  | send {d x r} (hp : s.phase = .live d) (hq : s.queue = x :: r) :
      Tries s .act ({ s with queue := r }.goTo (.sending x d))
  | ping {d} (hp : s.phase = .live d) (hq : s.queue = []) (hd : d ≤ s.now) :
      Tries s .act (s.goTo (.pinging (s.nextHeartbeat d)))
  | wake {d} (hp : s.phase = .resting d) (hd : d ≤ s.now) : Tries s .act (s.goTo .starting)
  | opened (hp : s.phase = .opening) :
      Tries s .opened (({ s with connections := s.connections + 1 }.record
        (.opened (s.connections + 1))).goTo .draining)
  | refused (hp : s.phase = .opening) : Tries s .refused ((s.record .refused).goTo .leaving)
  | received {d} (hp : s.phase = .live d) (line) : Tries s (.received line) (s.ingest line)
  | faulted {d} (hp : s.phase = .live d) :
      Tries s .faulted ((s.record (.faulted s.connections)).goTo (.ended .failed))
  | hungUp {d} (hp : s.phase = .live d) :
      Tries s .hungUp ((s.record (.hungUp s.connections)).goTo (.ended .hungUp))

variable {s s' : State} {m : Move}

theorem of_pollRest (h : s.pollRest? m = some s') :
    ∃ u, { s with cancelled := false }.move? m = some u ∧ s' = { u with cancelled := s.cancelled } := by
  unfold pollRest? at h
  split at h
  · exact nomatch h
  · exact nomatch h
  · exact nomatch h
  · obtain ⟨u, hu, hs⟩ := Option.map_eq_some_iff.mp h
    exact ⟨u, hu, hs.symm⟩

theorem adds_pollRest (h : s.pollRest? m = some s') :
    Adds (Allows { s with cancelled := false } (.move m)) s.history s'.history := by
  obtain ⟨u, hu, rfl⟩ := of_pollRest h
  exact (advances_move hu).adds

theorem cancelled_pollRest (h : s.pollRest? m = some s') : s'.cancelled = s.cancelled := by
  obtain ⟨u, -, rfl⟩ := of_pollRest h
  rfl

theorem settings_pollRest (h : s.pollRest? m = some s') : s'.settings = s.settings := by
  obtain ⟨u, hu, rfl⟩ := of_pollRest h
  have hsettings := settings_move hu
  exact hsettings

/-- A line is taken in alike whether or not the session is to stop. -/
theorem ingest_unheard (s : State) (line : String) :
    { ingest { s with cancelled := false } line with cancelled := s.cancelled } = s.ingest line := by
  simp only [ingest, record]
  cases Snapshot.ofLine? line with
  | none => rfl
  | some snap =>
    dsimp only
    cases (s.tracker.observe (some snap)).2 <;> rfl

theorem phase_ingest (s : State) (line : String) : (s.ingest line).phase = s.phase := by
  grind [ingest, record]

theorem connections_ingest (s : State) (line : String) :
    (s.ingest line).connections = s.connections := by
  grind [ingest, record]

theorem tries_of_pollRest (hp : s.phase.polls = true) (h : s.pollRest? m = some s') :
    s.Tries m s' := by
  obtain ⟨u, hu, rfl⟩ := of_pollRest h
  cases m with
  | elapse ms | call r | resume id => exact nomatch h
  | act =>
    obtain ⟨k, now, phase, cancelled, joinable, published, mode, tracker, snapshot, queue, calls,
      callCount, attempts, connections, history⟩ := s
    cases phase with
    | dialing =>
      obtain rfl := Option.some.inj hu
      exact .attempt rfl
    | opening => exact nomatch hu
    | live d =>
      cases queue with
      | cons x r =>
        obtain rfl := Option.some.inj hu
        exact .send (x := x) (r := r) rfl rfl
      | nil =>
        obtain ⟨hd, hs⟩ := Option.ite_none_right_eq_some.mp hu
        obtain rfl := Option.some.inj hs
        exact .ping rfl rfl hd
    | resting d =>
      obtain ⟨hd, hs⟩ := Option.ite_none_right_eq_some.mp hu
      obtain rfl := Option.some.inj hs
      exact .wake rfl hd
    | _ => exact nomatch hp
  | opened =>
    obtain ⟨⟨hphase, -⟩, hs⟩ := Option.ite_none_right_eq_some.mp hu
    exact Option.some.inj hs ▸ .opened hphase
  | refused =>
    obtain ⟨⟨hphase, -⟩, hs⟩ := Option.ite_none_right_eq_some.mp hu
    exact Option.some.inj hs ▸ .refused hphase
  | received line =>
    obtain ⟨⟨⟨d, hphase⟩, -⟩, hs⟩ := Option.ite_none_right_eq_some.mp hu
    obtain rfl := Option.some.inj hs
    have hlive : s.phase = .live d := hphase
    exact ingest_unheard s line ▸ .received hlive line
  | faulted =>
    obtain ⟨⟨⟨d, hphase⟩, -⟩, hs⟩ := Option.ite_none_right_eq_some.mp hu
    exact Option.some.inj hs ▸ .faulted hphase
  | hungUp =>
    obtain ⟨⟨⟨d, hphase⟩, -⟩, hs⟩ := Option.ite_none_right_eq_some.mp hu
    exact Option.some.inj hs ▸ .hungUp hphase
  | handed | handFailed =>
    obtain ⟨o, ho, -⟩ := Option.map_eq_some_iff.mp hu
    cases hphase : s.phase <;> simp [pending?, hphase, Phase.polls] at ho hp
  | closed =>
    obtain ⟨⟨d, hphase⟩, -⟩ := of_closed? hu
    change s.phase = .closing d at hphase
    simp [hphase, Phase.polls] at hp

/-- A poll that nobody comes into is a move. -/
theorem Tries.move? (h : s.Tries m s') (hc : s.cancelled = false) : s.move? m = some s' := by
  have hlive {d} (hp : s.phase = .live d) : s.Listens := ⟨⟨d, hp⟩, by simp [hc]⟩
  cases h with
  | attempt hp => simp [State.move?, act?, hp, hc]
  | send hp hq => simp [State.move?, act?, hp, hc, hq]
  | ping hp hq hd => simp [State.move?, act?, hp, hc, hq, hd]
  | wake hp hd => simp [State.move?, act?, hp, hc, hd]
  | opened hp => exact if_pos ⟨hp, by simp [hc]⟩
  | refused hp => exact if_pos ⟨hp, by simp [hc]⟩
  | received hp line => exact if_pos (hlive hp)
  | faulted hp => exact if_pos (hlive hp)
  | hungUp hp => exact if_pos (hlive hp)

/-! ## What every run keeps -/

/-- What holds of a keypad on every run. -/
structure Sound (s : State) : Prop where
  tracked : s.Tracked
  accounted : s.Accounted
  answered : s.Answered
  held : s.Held
  once : s.SpawnsOnce

theorem Sound.turn (h : s.Sound) {t : Turn} (ht : s.turn? t = some s') : s'.Sound where
  tracked := h.tracked.turn ht
  accounted := by
    cases t with
    | move m => exact h.accounted.move h.tracked h.tracked.publishedIn_eq ht
    | late ms => exact Option.some.inj ht ▸ h.accounted
  answered := h.answered.turn h.accounted ht
  held := by
    cases t with
    | move m => exact h.held.move h.accounted ht
    | late ms => exact Option.some.inj ht ▸ h.held.later ms
  once := h.once.turn ht

theorem Tracked.tries (h : s.Tracked) (ht : s.Tries m s') : s'.Tracked := by
  cases ht with
  | received hp line => exact h.ingest hp line
  | faulted hp => exact (h.ends hp).1
  | hungUp hp => exact (h.ends hp).2
  | attempt hp =>
    obtain ⟨⟨g, n, w, b⟩, ht, fits, hpub, hc, hw, hb⟩ := h
    rw [hp] at fits hw
    obtain rfl : g = .dialing := fits
    exact ⟨_, ht.next (.attempt ..), rfl, hpub, hc, hw, hb⟩
  | opened hp =>
    obtain ⟨⟨g, n, w, b⟩, ht, fits, hpub, hc, hw, hb⟩ := h
    rw [hp] at fits hw
    obtain rfl : g = .dialing := fits
    obtain rfl : s.connections = n := hc
    exact ⟨_, ht.next (.opens ..), rfl, hpub, rfl, hw, hb⟩
  | refused hp =>
    obtain ⟨⟨g, n, w, b⟩, ht, fits, hpub, hc, hw, hb⟩ := h
    rw [hp] at fits hw
    obtain rfl : g = .dialing := fits
    exact ⟨_, ht.next (.refuse ..), .inl rfl, hpub, hc, hw, hb⟩
  | send hp hq =>
    obtain ⟨q, ht, fits, hpub, hc, hw, hb⟩ := h
    rw [hp] at fits hw
    rw [hq] at hw
    exact ⟨q, ht, fits, hpub, hc, hw, hb⟩
  | ping hp hq hd =>
    obtain ⟨q, ht, fits, hpub, hc, hw, hb⟩ := h
    rw [hp] at fits hw
    obtain ⟨since, pings, hg, hdue⟩ := fits
    exact ⟨q, ht, ⟨since, pings, hg, Nat.le_trans hdue hd, le_nextTick hdue hd⟩, hpub, hc, hw, hb⟩
  | wake hp hd =>
    obtain ⟨q, ht, fits, hpub, hc, hw, hb⟩ := h
    rw [hp] at fits hw
    exact ⟨q, ht, fits, hpub, hc, hw, hb⟩

theorem Accounted.tries (a : s.Accounted) (ht : s.Tries m s') : s'.Accounted := by
  cases ht with
  | received hp line => exact a.ingest line
  | send hp hq | ping hp hq hd | wake hp hd => exact a
  | _ => exact Accounts.record a rfl rfl nofun

theorem Sound.pollRest (h : s.Sound) (hp : s.phase.polls = true) (hr : s.pollRest? m = some s') :
    s'.Sound := by
  have htries := tries_of_pollRest hp hr
  obtain ⟨u, hu, rfl⟩ := of_pollRest hr
  -- but for the track nothing depends on whether the session has been told to stop
  let t : State := { s with cancelled := false }
  have ht : t.turn? (.move m) = some u := hu
  have hheld : t.Held := ⟨h.held.unstarted, h.held.joining, h.held.crashed⟩
  have held : u.Held := hheld.move h.accounted hu
  have answered : u.Answered := Answered.turn (s := t) h.answered h.accounted ht
  have once : u.SpawnsOnce := SpawnsOnce.turn (s := t) h.once ht
  exact ⟨h.tracked.tries htries, h.accounted.tries htries, answered,
    ⟨held.unstarted, held.joining, held.crashed⟩, once⟩

end State

/-- Whether a turn is a step of a caller, or time that passes. -/
def Turn.IsAside : Turn → Prop
  | .late _ | .move (.call _) | .move (.resume _) => True
  | _ => False

namespace Polled

inductive Step : Polled → Slice → Polled → Prop
  | look {s} (hp : s.phase.polls = true) (hc : s.cancelled = false) :
      Step ⟨s, false⟩ .look ⟨s, true⟩
  | whole {s t s'} (ht : s.turn? t = some s') : Step ⟨s, false⟩ (.turn t) ⟨s', false⟩
  | aside {s t s'} (ha : t.IsAside) (ht : s.turn? t = some s') :
      Step ⟨s, true⟩ (.turn t) ⟨s', true⟩
  | rest {s m s'} (hr : s.pollRest? m = some s') :
      Step ⟨s, true⟩ (.turn (.move m)) ⟨s', s'.phase = .opening⟩
  | nothing {s} : Step ⟨s, true⟩ (.turn (.move .act)) ⟨s, false⟩

variable {p p' : Polled} {b : Slice} {s s' : State} {t : Turn}

theorem step_of_slice (h : p.slice? b = some p') : Step p b p' := by
  obtain ⟨s, polling⟩ := p
  cases b with
  | look =>
    obtain ⟨⟨hpolling, hp, hc⟩, hs⟩ := Option.ite_none_right_eq_some.mp h
    obtain rfl : polling = false := hpolling
    exact Option.some.inj hs ▸ .look hp hc
  | turn t =>
    cases polling with
    | false =>
      obtain ⟨s', ht, rfl⟩ := Option.map_eq_some_iff.mp h
      exact .whole ht
    | true =>
      have aside (ha : t.IsAside) (ht : (s.turn? t).map (mk · true) = some p') :
          Step ⟨s, true⟩ (.turn t) p' := by
        obtain ⟨s', hs, rfl⟩ := Option.map_eq_some_iff.mp ht
        exact .aside ha hs
      simp only [slice?, Bool.true_eq_false, if_false] at h
      split at h
      · exact aside trivial h
      · exact aside trivial h
      · exact aside trivial h
      · unfold finish? at h
        split at h
        · rename_i hr
          exact Option.some.inj h ▸ .rest hr
        · obtain ⟨rfl, hs⟩ := Option.ite_none_right_eq_some.mp h
          exact Option.some.inj hs ▸ .nothing

/-- The two parts of a poll that nobody comes into are a move. -/
theorem run_look {m : Move} (hc : s.cancelled = false) (hp : s.phase.polls = true)
    (hr : s.pollRest? m = some s') :
    s.move? m = some s' ∧ ((mk s false).run [.look, .turn (.move m)]).state = s' := by
  refine ⟨(State.tries_of_pollRest hp hr).move? hc, ?_⟩
  have hlook : (mk s false).slice .look = ⟨s, true⟩ := slice_eq (if_pos ⟨rfl, hp, hc⟩)
  have hrest : (mk s true).slice? (.turn (.move m)) = some ⟨s', s'.phase = .opening⟩ := by
    cases m with
    | elapse ms | call r | resume id => exact nomatch hr
    | _ => simp [slice?, finish?, hr]
  rw [run_cons, run_cons, run_nil, hlook, slice_eq hrest]

/-- A caller leaves a poll where it is. -/
theorem phase_of_isAside (hp : s.phase.polls = true) (ha : t.IsAside) (ht : s.turn? t = some s') :
    s'.phase = s.phase := by
  refine (State.advances_turn ht).phase fun hl => ?_
  unfold State.Leaves at hl
  unfold Turn.IsAside at ha
  split at hl <;> grind [Phase.polls]

/-- What turns and the rest of a poll keep holds of the keypad after a slice. -/
theorem state_slice {P : State → Prop} (turn : ∀ s t s', P s → s.turn? t = some s' → P s')
    (rest : ∀ s m s', P s → s.pollRest? m = some s' → P s') (h : P p.state)
    (hb : p.slice? b = some p') : P p'.state := by
  cases step_of_slice hb with
  | look hp hc => exact h
  | whole ht | aside ha ht => exact turn _ _ _ h ht
  | rest hr => exact rest _ _ _ h hr
  | nothing => exact h

theorem state_run {P : State → Prop} (turn : ∀ s t s', P s → s.turn? t = some s' → P s')
    (rest : ∀ s m s', P s → s.pollRest? m = some s' → P s') (h : P p.state) (bs : List Slice) :
    P (p.run bs).state :=
  run_induction (P := fun q => P q.state) (fun _ _ _ hq hb => state_slice turn rest hq hb) h bs

/-- A call for shutdown stays heard. -/
theorem told_slice (hc : p.state.cancelled = true) (hb : p.slice? b = some p') :
    p'.state.cancelled = true :=
  state_slice (P := fun s => s.cancelled = true) (fun _ _ _ hs ht => (State.advances_turn ht).told hs)
    (fun _ _ _ hs hr => (State.cancelled_pollRest hr).trans hs) hc hb

theorem history_suffix_run (p : Polled) (bs : List Slice) :
    p.state.history <:+ (p.run bs).state.history :=
  state_run (P := fun s => p.state.history <:+ s.history)
    (fun _ _ _ hs ht => hs.trans (State.advances_turn ht).adds.suffix)
    (fun _ _ _ hs hr => hs.trans (State.adds_pollRest hr).suffix) (List.suffix_refl _) bs

theorem settings_run (p : Polled) (bs : List Slice) :
    (p.run bs).state.settings = p.state.settings :=
  state_run (P := fun s => s.settings = p.state.settings)
    (fun _ _ _ hs ht => (State.settings_turn ht).trans hs)
    (fun _ _ _ hs hr => (State.settings_pollRest hr).trans hs) rfl bs

/-- What holds of a keypad on every run in which callers may come into a poll. -/
structure Sound (p : Polled) : Prop where
  state : p.state.Sound
  polls : p.polling = true → p.state.phase.polls = true

theorem Sound.phase_polls (h : Polled.Sound ⟨s, true⟩) : s.phase.polls = true := h.polls rfl

theorem Sound.slice (h : p.Sound) (hb : p.slice? b = some p') : p'.Sound := by
  cases step_of_slice hb with
  | look hp hc => exact ⟨h.state, fun _ => hp⟩
  | whole ht => exact ⟨h.state.turn ht, nofun⟩
  | aside ha ht =>
    have hp := h.phase_polls
    exact ⟨h.state.turn ht, fun _ => (phase_of_isAside hp ha ht) ▸ hp⟩
  | rest hr =>
    exact ⟨h.state.pollRest h.phase_polls hr, fun ho => by rw [of_decide_eq_true ho]; rfl⟩
  | nothing => exact ⟨h.state, nofun⟩

theorem Sound.call (h : p.Sound) (r : Request) : (p.call r).Sound := by
  rw [← slice_call, Polled.slice]
  cases hb : p.slice? (.turn (.move (.call r))) with
  | none => exact h
  | some p' => exact h.slice hb

/-- How many steps of the session a poll that is under way takes at most. -/
def pollsLeft (p : Polled) : Nat :=
  match p.polling, p.state.phase with
  | true, .dialing => 2
  | true, _ => 1
  | false, _ => 0

theorem polling_of_pollsLeft (h : p.pollsLeft = 0) : p.polling = false := by
  unfold pollsLeft at h
  split at h
  · exact nomatch h
  · exact nomatch h
  · assumption

/-- Every step of the session brings a poll that is under way nearer to its end. -/
theorem pollsLeft_slice (hp : p.Sound) (hc : p.state.cancelled = true)
    (hb : p.slice? b = some p') :
    p'.pollsLeft ≤ p.pollsLeft - if b = .turn (.move .act) then 1 else 0 := by
  cases step_of_slice hb with
  | look hpolls hnot => exact nomatch hc.symm.trans hnot
  | whole ht | nothing => exact Nat.zero_le _
  | @aside s t s' ha ht =>
    have hne : t ≠ .move .act := fun heq => by simp [heq, Turn.IsAside] at ha
    have hphase := phase_of_isAside hp.phase_polls ha ht
    simp [pollsLeft, hphase, hne]
  | rest hr =>
    cases State.tries_of_pollRest hp.phase_polls hr with
    | attempt hd => simp [pollsLeft, hd, State.goTo]
    | received hd line => simp [pollsLeft, hd, State.phase_ingest]
    | _ => exact Nat.zero_le _

theorem isSome_act (hp : p.polling = true) : (p.slice? (.turn (.move .act))).isSome = true := by
  simp only [slice?, hp, Bool.true_eq_false, if_false, finish?]
  split <;> rfl

theorem pollsLeft_run (hp : p.Sound) (hc : p.state.cancelled = true) (bs : List Slice) :
    (p.run bs).pollsLeft ≤ p.pollsLeft - bs.count (.turn (.move .act)) := by
  induction bs generalizing p with
  | nil => exact Nat.le_refl _
  | cons b bs ih =>
    have hcount : (b :: bs).count (.turn (.move .act)) =
        bs.count (.turn (.move .act)) + if b = .turn (.move .act) then 1 else 0 := by
      rw [List.count_cons]
      simp
    rw [run_cons, hcount]
    cases hb : p.slice? b with
    | none =>
      rw [slice_eq_self hb]
      have hrun := ih hp hc
      by_cases hact : b = .turn (.move .act)
      · -- a step of the session is always possible in a poll
        have hnot : p.polling = false := by
          by_contra hpolling
          have hsome := isSome_act (eq_true_of_ne_false hpolling)
          rw [← hact, hb] at hsome
          exact nomatch hsome
        have hzero : p.pollsLeft = 0 := by simp [pollsLeft, hnot]
        omega
      · simpa [hact] using hrun
    | some p' =>
      rw [slice_eq hb]
      have hrun := ih (hp.slice hb) (told_slice hc hb)
      have hstep := pollsLeft_slice hp hc hb
      omega

end Polled
end AlarmKeypad.Session
