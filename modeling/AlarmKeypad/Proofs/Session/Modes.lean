import AlarmKeypad.Proofs.Session.History
import AlarmKeypad.Proofs.Session.Run
import AlarmKeypad.Session.Notice
import Mathlib.Data.List.Chain

namespace AlarmKeypad.Session

/-- The changes along modes that follow one another, the first of them after `m`. -/
def changesAlong (m : DisplayMode) : List DisplayMode → List ModeChange
  | [] => []
  | m' :: ms => (if m' = m then [] else [⟨m, m'⟩]) ++ changesAlong m' ms

section
variable {m m' : DisplayMode} {ms : List DisplayMode}

theorem changesAlong_append {ms' : List DisplayMode} : changesAlong m (ms ++ ms') =
    changesAlong m ms ++ changesAlong (ms.getLast?.getD m) ms' := by
  induction ms generalizing m with
  | nil => rfl
  | cons x ms ih =>
    rw [List.cons_append, changesAlong, changesAlong, ih, List.append_assoc, List.getLast?_cons]
    rfl

theorem changesAlong_concat : changesAlong m (ms ++ [m']) = changesAlong m ms ++
    if m' = ms.getLast?.getD m then [] else [⟨ms.getLast?.getD m, m'⟩] :=
  changesAlong_append.trans (congrArg _ (List.append_nil _))

/-- Each change begins where the one before it ended, and the first at `m`; none goes nowhere. -/
theorem changesAlong_chain : List.IsChain (fun c d => c.after = d.before) (changesAlong m ms) ∧
    (∀ c ∈ (changesAlong m ms).head?, c.before = m) ∧
    ∀ c ∈ changesAlong m ms, c.before ≠ c.after := by
  induction ms generalizing m with
  | nil => simp [changesAlong]
  | cons x ms ih =>
    obtain ⟨hchain, hhead, hne⟩ := ih (m := x)
    by_cases hx : x = m
    · subst hx
      simpa [changesAlong] using ⟨hchain, hhead, hne⟩
    · rw [changesAlong, if_neg hx]
      refine ⟨?_, ?_, ?_⟩
      · refine List.isChain_cons.mpr ⟨fun c hc => (hhead c hc).symm, hchain⟩
      · simp
      · simpa [Ne.symm hx] using hne

/-- The changes that are told of as snapshots come, one after the other. -/
def edges (m : DisplayMode) : List Snapshot → List ModeChange
  | [] => []
  | snap :: snaps => (m.observe (some snap)).2.toList ++ edges (m.observe (some snap)).1 snaps

theorem edges_eq {snaps : List Snapshot} :
    edges m snaps = changesAlong m (snaps.map DisplayMode.ofState) := by
  induction snaps generalizing m with
  | nil => rfl
  | cons snap snaps ih =>
    have hchange : (m.observe (some snap)).2.toList =
        if DisplayMode.ofState snap = m then [] else [⟨m, DisplayMode.ofState snap⟩] := by
      unfold DisplayMode.observe DisplayMode.ofSnapshot
      dsimp only
      split <;> rfl
    rw [edges, hchange, ih]
    rfl

end

namespace Event

def snapshot? : Event → Option Snapshot
  | .received _ line => Snapshot.ofLine? line
  | _ => none

def change? : Event → Option ModeChange
  | .modeChanged c => some c
  | _ => none

end Event

def snapshots (h : List Stamped) : List Snapshot := collect Event.snapshot? h

def Notice.change? : Notice → Option ModeChange
  | .mode c => some c
  | .connection _ => none

def changes (h : List Stamped) : List ModeChange :=
  ((notices h).reverse.map Prod.snd).filterMap Notice.change?

theorem changes_eq (h : List Stamped) : changes h = collect Event.change? h := by
  induction h with
  | nil => rfl
  | cons e h ih =>
    rw [collect_cons, ← ih]
    obtain ⟨t, e⟩ := e
    cases e <;> simp [changes, notices, Notice.ofEvent?, Notice.change?, Event.change?]

namespace State

/-- Nothing is said of the mode between two states. -/
structure SaysNothing (s s' : State) : Prop where
  mode : s'.mode = s.mode
  tracker : s'.tracker = s.tracker
  snapshot : s'.snapshot = s.snapshot
  snapshots : collect Event.snapshot? s'.history = collect Event.snapshot? s.history
  changes : collect Event.change? s'.history = collect Event.change? s.history

theorem saysNothing_act {s s' : State} (h : s.act? = some s') : s.SaysNothing s' := by
  unfold act? at h
  split at h <;>
    grind [SaysNothing, record, goTo, drop, publish, collect_cons, Event.snapshot?, Event.change?]

theorem saysNothing_call (s : State) (r : Request) : s.SaysNothing (s.call r) := by
  cases r <;>
    grind [SaysNothing, call, record, returned, waiting, offer, collect_cons, Event.snapshot?,
      Event.change?]

theorem saysNothing_resume {s s' : State} {id : Nat} (h : s.resume? id = some s') :
    s.SaysNothing s' := by
  unfold resume? at h
  split at h <;>
    grind [SaysNothing, record, returned, waiting, collect_cons, Event.snapshot?, Event.change?]

theorem saysNothing_afterHanding (s : State) : s.SaysNothing s.afterHanding := by
  unfold afterHanding
  split <;>
    grind [SaysNothing, setHeartbeat, goTo, drop, record, collect_cons, Event.snapshot?,
      Event.change?]

theorem saysNothing_record (s : State) {e : Event} (hs : e.snapshot? = none)
    (hc : e.change? = none) : s.SaysNothing (s.record e) :=
  ⟨rfl, rfl, rfl, by simp [record, hs], by simp [record, hc]⟩

theorem saysNothing_ingest (s : State) {line : String} (h : Snapshot.ofLine? line = none) :
    s.SaysNothing (s.ingest line) := by
  unfold ingest
  rw [h]
  exact saysNothing_record s h rfl

theorem SaysNothing.trans {s s' s'' : State} (h : s.SaysNothing s') (h' : s'.SaysNothing s'') :
    s.SaysNothing s'' :=
  ⟨h'.mode.trans h.mode, h'.tracker.trans h.tracker, h'.snapshot.trans h.snapshot,
    h'.snapshots.trans h.snapshots, h'.changes.trans h.changes⟩

/-- A turn says nothing of the mode unless it brings a snapshot. -/
theorem saysNothing_move {s s' : State} {m : Move} (h : s.move? m = some s')
    (hm : ∀ line, m = .received line → Snapshot.ofLine? line = none) : s.SaysNothing s' := by
  cases m with
  | elapse ms => grind [move?, elapse?, SaysNothing]
  | call r => exact Option.some.inj h ▸ saysNothing_call s r
  | resume id => exact saysNothing_resume h
  | act => exact saysNothing_act h
  | opened =>
    grind [move?, opened?, SaysNothing, record, goTo, collect_cons, Event.snapshot?, Event.change?]
  | refused =>
    grind [move?, refused?, SaysNothing, record, goTo, collect_cons, Event.snapshot?, Event.change?]
  | handed =>
    obtain ⟨⟨source, line⟩, -, rfl⟩ := Option.map_eq_some_iff.mp h
    exact (saysNothing_record s rfl rfl).trans (saysNothing_afterHanding _)
  | handFailed =>
    obtain ⟨⟨source, line⟩, -, rfl⟩ := Option.map_eq_some_iff.mp h
    exact { saysNothing_record s (e := .handFailed _ source line) rfl rfl with }
  | received line => grind [move?, received?, saysNothing_ingest]
  | faulted =>
    grind [move?, faulted?, SaysNothing, record, goTo, collect_cons, Event.snapshot?, Event.change?]
  | hungUp =>
    grind [move?, hungUp?, SaysNothing, record, goTo, collect_cons, Event.snapshot?, Event.change?]
  | closed =>
    obtain ⟨-, rfl⟩ := of_closed? h
    exact { saysNothing_record s (e := .dropped _) rfl rfl with }

theorem saysNothing_turn (s : State) {t : Turn}
    (ht : ∀ line, t = .move (.received line) → Snapshot.ofLine? line = none) :
    s.SaysNothing (s.turn t) := by
  cases h : s.turn? t with
  | none =>
    rw [turn_eq_self h]
    exact ⟨rfl, rfl, rfl, rfl, rfl⟩
  | some s' =>
    rw [turn_eq h]
    cases t with
    | move m => exact saysNothing_move h fun line hm => ht line (congrArg _ hm)
    | late ms => exact Option.some.inj h ▸ ⟨rfl, rfl, rfl, rfl, rfl⟩

structure Agrees (s : State) : Prop where
  snapshot : s.snapshot = (snapshots s.history).getLast?
  tracker : s.tracker = DisplayMode.ofSnapshot s.snapshot
  mode : s.mode = s.tracker
  changes : collect Event.change? s.history =
    changesAlong .unknown ((snapshots s.history).map DisplayMode.ofState)

/-- What is said of the mode: the last snapshot, the mode and its changes. -/
structure Word where
  snapshot : Option Snapshot
  mode : DisplayMode
  changes : List ModeChange
deriving DecidableEq

def word (s : State) : Word := ⟨s.snapshot, s.mode, Session.changes s.history⟩

theorem SaysNothing.word_eq {s s' : State} (h : s.SaysNothing s') : s'.word = s.word := by
  rw [word, word, changes_eq, changes_eq, h.snapshot, h.mode, h.changes]

theorem agrees_init (k : KeypadSettings) : (init k).Agrees := ⟨rfl, rfl, rfl, rfl⟩

theorem Agrees.of_saysNothing {s s' : State} (h : s.Agrees) (hs : s.SaysNothing s') :
    s'.Agrees where
  snapshot := by rw [hs.snapshot, h.snapshot, snapshots, snapshots, hs.snapshots]
  tracker := by rw [hs.tracker, hs.snapshot, h.tracker]
  mode := by rw [hs.mode, hs.tracker, h.mode]
  changes := by rw [hs.changes, h.changes, snapshots, snapshots, hs.snapshots]

def taking (s : State) (snap : Snapshot) : State :=
  if DisplayMode.ofState snap = s.tracker then { s with snapshot := some snap }
  else
    { s with
      mode := DisplayMode.ofState snap
      tracker := DisplayMode.ofState snap
      snapshot := some snap }.record (.modeChanged ⟨s.tracker, DisplayMode.ofState snap⟩)

theorem ingest_of_snapshot (s : State) {line : String} {snap : Snapshot}
    (h : Snapshot.ofLine? line = some snap) :
    s.ingest line = (s.record (.received s.connections line)).taking snap := by
  unfold ingest taking
  simp only [h, DisplayMode.observe, DisplayMode.ofSnapshot]
  by_cases heq : DisplayMode.ofState snap = s.tracker <;> simp [record, heq]

theorem getLast?_modes (snaps : List Snapshot) :
    (snaps.map DisplayMode.ofState).getLast?.getD .unknown =
      DisplayMode.ofSnapshot snaps.getLast? := by
  rw [List.getLast?_map]
  cases snaps.getLast? <;> rfl

theorem turn_received {s : State} (h : s.Listens) (line : String) :
    s.turn (.move (.received line)) = s.ingest line :=
  turn_eq (if_pos h)

section
variable {s : State} {line : String} {snap : Snapshot} (hl : Snapshot.ofLine? line = some snap)
include hl

theorem snapshots_ingest :
    snapshots (s.ingest line).history = snapshots s.history ++ [snap] := by
  rw [ingest_of_snapshot s hl, taking]
  split <;> simp [snapshots, record, Event.snapshot?, hl]

theorem changes_ingest : collect Event.change? (s.ingest line).history =
    collect Event.change? s.history ++ if DisplayMode.ofState snap = s.tracker then []
      else [⟨s.tracker, DisplayMode.ofState snap⟩] := by
  rw [ingest_of_snapshot s hl]
  by_cases heq : DisplayMode.ofState snap = s.tracker <;>
    simp [taking, record, Event.change?, heq]

theorem words_ingest (hmode : s.mode = s.tracker) : (s.ingest line).snapshot = some snap ∧
    (s.ingest line).tracker = DisplayMode.ofState snap ∧
    (s.ingest line).mode = DisplayMode.ofState snap := by
  rw [ingest_of_snapshot s hl, taking]
  split
  case isTrue heq => exact ⟨rfl, heq.symm, hmode.trans heq.symm⟩
  case isFalse => exact ⟨rfl, rfl, rfl⟩

/-- A snapshot takes all three along, and the change is told if there is one. -/
theorem Agrees.ingest (h : s.Agrees) : (s.ingest line).Agrees := by
  obtain ⟨hsnapshot, htracker, hmode⟩ := words_ingest hl h.mode
  refine ⟨?_, ?_, hmode.trans htracker.symm, ?_⟩
  · rw [hsnapshot, snapshots_ingest hl, List.getLast?_concat]
  · rw [htracker, hsnapshot]
    rfl
  · have hlast : ((snapshots s.history).map DisplayMode.ofState).getLast?.getD .unknown =
        s.tracker := by
      rw [getLast?_modes, h.tracker, h.snapshot]
    rw [changes_ingest hl, snapshots_ingest hl, List.map_append, List.map_singleton,
      changesAlong_concat, hlast, h.changes]

end

/-- The changes told of between two states are those of the snapshots that have come between. -/
theorem Agrees.changes_append {s s' : State} (h : s.Agrees) (h' : s'.Agrees)
    {news : List Snapshot} (hnews : snapshots s'.history = snapshots s.history ++ news) :
    Session.changes s'.history = Session.changes s.history ++ edges s.mode news := by
  have hmode : ((snapshots s.history).map DisplayMode.ofState).getLast?.getD .unknown = s.mode := by
    rw [getLast?_modes, h.mode, h.tracker, h.snapshot]
  rw [changes_eq, changes_eq, h'.changes, h.changes, hnews, List.map_append, changesAlong_append,
    hmode, edges_eq]

/-- Every run keeps the words on the mode in step. -/
theorem agrees_run (k : KeypadSettings) (ts : List Turn) : ((init k).run ts).Agrees := by
  refine run_induction (P := Agrees) (fun s t s' hs ht => ?_) (agrees_init k) ts
  -- a turn brings a snapshot or says nothing
  by_cases hquiet : ∀ line, t = .move (.received line) → Snapshot.ofLine? line = none
  · exact hs.of_saysNothing (turn_eq ht ▸ saysNothing_turn s hquiet)
  · obtain ⟨line, hloud⟩ := not_forall.mp hquiet
    obtain ⟨rfl, hne⟩ := Classical.not_imp.mp hloud
    obtain ⟨snap, hsnap⟩ := Option.ne_none_iff_exists'.mp hne
    have hingest : s' = s.ingest line := by
      grind [turn?, move?, received?]
    exact hingest ▸ hs.ingest hsnap

end State
end AlarmKeypad.Session
