import AlarmKeypad.Proofs.Session.Tracking
import AlarmKeypad.Session.Notice
import Mathlib.Data.List.Chain

namespace AlarmKeypad.Session

/-- What may be published after what. -/
inductive Edge : ConnectionState → ConnectionState → Prop
  | dial : Edge .disconnected .connecting
  | connect : Edge .connecting .connected
  | giveUp : Edge .connecting .disconnected
  | close : Edge .connected .closing
  | lose : Edge .connected .disconnected
  | leave : Edge .closing .disconnected

def Notice.connection? : Notice → Option ConnectionState
  | .connection c => some c
  | .mode _ => none

def connectionNotices (h : List Stamped) : List ConnectionState :=
  ((notices h).reverse.map Prod.snd).filterMap Notice.connection?

theorem connectionNotices_eq (h : List Stamped) :
    connectionNotices h = collect Event.published? h := by
  induction h with
  | nil => rfl
  | cons e h ih =>
    rw [collect_cons, ← ih]
    obtain ⟨t, e⟩ := e
    cases e <;>
      simp [connectionNotices, notices, Notice.ofEvent?, Notice.connection?, Event.published?]

def HungUpIn (h : List Stamped) : Prop := ∃ x ∈ h, ∃ c, x.event = .hungUp c

def BrokenIn (h : List Stamped) : Prop := ∃ x ∈ h, ∃ c, x.event.Breaks c

def DroppedIn (h : List Stamped) : Prop := ∃ x ∈ h, ∃ c, x.event = .dropped c

def ToldIn (h : List Stamped) : Prop := ∃ x ∈ h, ∃ id, x.event = .called id .shutdown

namespace State

/-- The values that the published state takes on a run, after the one it has at first. -/
def valuesTaken (s : State) : List Turn → List ConnectionState
  | [] => []
  | t :: ts =>
    (if (s.turn t).published = s.published then [] else [(s.turn t).published]) ++
      (s.turn t).valuesTaken ts

/-- What a step has published: nothing, or the one value that is new. -/
def Publishes (s s' : State) : Prop :=
  collect Event.published? s'.history = collect Event.published? s.history ++
    if s'.published = s.published then [] else [s'.published]

theorem publishes_of_record {s s' : State} {e : Event} (he : e.published? = none)
    (h : (s.record e).Publishes s') : s.Publishes s' := by
  have hpast : collect Event.published? (s.record e).history =
      collect Event.published? s.history := by
    simp [record, he]
  exact h.trans (congrArg (· ++ _) hpast)

theorem publishes_act {s s' : State} (h : s.act? = some s') : s.Publishes s' := by
  unfold act? at h
  split at h <;>
    grind [Publishes, record, goTo, drop, publish, collect_cons, Event.published?]

theorem publishes_call (s : State) (r : Request) : s.Publishes (s.call r) := by
  cases r <;>
    grind [Publishes, call, record, returned, waiting, offer, collect_cons, Event.published?]

theorem publishes_resume {s s' : State} {id : Nat} (h : s.resume? id = some s') :
    s.Publishes s' := by
  unfold resume? at h
  split at h <;>
    grind [Publishes, record, returned, waiting, collect_cons, Event.published?]

theorem publishes_ingest (s : State) (line : String) : s.Publishes (s.ingest line) := by
  unfold ingest
  dsimp only
  split
  · simp [Publishes, record, Event.published?]
  · split <;> simp [Publishes, record, Event.published?]

theorem publishes_afterHanding (s : State) : s.Publishes s.afterHanding := by
  unfold afterHanding
  split
  · unfold setHeartbeat
    split <;> simp [Publishes, goTo, drop, record, Event.published?]
  all_goals simp [Publishes, goTo]

theorem publishes_move {s s' : State} {m : Move} (h : s.move? m = some s') : s.Publishes s' := by
  cases m with
  | elapse ms => grind [move?, elapse?, Publishes]
  | call r => exact Option.some.inj h ▸ publishes_call s r
  | resume id => exact publishes_resume h
  | act => exact publishes_act h
  | opened => grind [move?, opened?, Publishes, record, goTo, collect_cons, Event.published?]
  | refused => grind [move?, refused?, Publishes, record, goTo, collect_cons, Event.published?]
  | handed =>
    obtain ⟨⟨source, line⟩, -, rfl⟩ := Option.map_eq_some_iff.mp h
    exact publishes_of_record rfl (publishes_afterHanding _)
  | handFailed =>
    obtain ⟨⟨source, line⟩, -, rfl⟩ := Option.map_eq_some_iff.mp h
    grind [Publishes, goTo, record, collect_cons, Event.published?]
  | received line => grind [move?, received?, publishes_ingest]
  | faulted => grind [move?, faulted?, Publishes, record, goTo, collect_cons, Event.published?]
  | hungUp => grind [move?, hungUp?, Publishes, record, goTo, collect_cons, Event.published?]
  | closed =>
    obtain ⟨-, rfl⟩ := of_closed? h
    simp [Publishes, drop, goTo, record, Event.published?]

theorem publishes_turn (s : State) (t : Turn) : s.Publishes (s.turn t) := by
  cases ht : s.turn? t with
  | none => simp [Publishes, turn_eq_self ht]
  | some s' =>
    rw [turn_eq ht]
    cases t with
    | move m => exact publishes_move ht
    | late ms =>
      obtain rfl := Option.some.inj ht
      simp [Publishes]

/-- The states that have been published are the values that the published state has taken. -/
theorem published_run (s : State) (ts : List Turn) :
    collect Event.published? (s.run ts).history =
      collect Event.published? s.history ++ s.valuesTaken ts := by
  induction ts generalizing s with
  | nil => exact (List.append_nil _).symm
  | cons t ts ih =>
    have hstep : collect Event.published? (s.turn t).history = _ := s.publishes_turn t
    rw [run_cons, ih, hstep, List.append_assoc]
    rfl

end State

variable {k : KeypadSettings} {h between older : List Stamped} {q q' : Track}

theorem Track.Next.edge {t : Nat} {c : ConnectionState}
    (hn : q.Next k ⟨t, .published c⟩ q') : Edge q.stage.published c := by
  cases hn <;> constructor

/-- Each state follows the one that was published before it. -/
theorem Tracks.isChain (ht : Tracks k h q) :
    List.IsChain Edge (.disconnected :: collect Event.published? h) := by
  induction ht with
  | start => exact .singleton _
  | @next h q e q' hp hn ih =>
    rw [collect_cons, ← List.cons_append]
    refine List.isChain_append.mpr ⟨ih, ?_, ?_⟩
    · cases e.event.published? <;> simp
    · intro x hx y hy
      rw [List.getLast?_cons, Option.mem_some_iff] at hx
      obtain ⟨t, e⟩ := e
      cases e with
      | published c =>
        obtain rfl : c = y := by simpa [Event.published?] using hy
        have hlast : q.stage.published = x := hp.published.symm.trans hx
        exact hlast ▸ hn.edge
      | _ => simp [Event.published?] at hy

theorem Tracks.told_iff (ht : Tracks k h q) : q.told = true ↔ ToldIn h := by
  unfold ToldIn
  induction ht with
  | start => simp [Track.start]
  | next hp hn ih =>
    rw [List.exists_mem_cons_iff, ← ih]
    cases hn with
    | called g n w b t id r => simp [or_comm]
    | _ => grind [Track.Hands]

theorem publishedIn_span {t : Nat} {c : ConnectionState}
    (hb : collect Event.published? between = []) :
    publishedIn (between ++ ⟨t, .published c⟩ :: older) = c := by
  simp [publishedIn, collect_append, hb, Event.published?]

/-- How the time as connected has gone: whether the device hung up, whether anything broke, and
whether the connection has been dropped. -/
theorem Tracks.span {t : Nat} (ht : Tracks k (between ++ ⟨t, .published .connected⟩ :: older) q)
    (hb : collect Event.published? between = []) :
    (HungUpIn between ↔ q.stage = .hungUp ∨ q.stage = .lost) ∧
      (BrokenIn between ↔ q.stage = .failed) ∧
      (DroppedIn between ↔ q.stage = .lost ∨ q.stage = .crashed) := by
  unfold HungUpIn BrokenIn DroppedIn
  induction between generalizing q with
  | nil =>
    cases ht with
    | next hp hn =>
      cases hn
      simp
  | cons x between ih =>
    obtain ⟨hb, hx⟩ := List.append_eq_nil_iff.mp hb
    cases ht with
    | @next _ p _ _ hp hn =>
      obtain ⟨ihup, ibreak, idrop⟩ := ih hp hb
      have hpub : p.stage.published = .connected :=
        hp.published.symm.trans (publishedIn_span hb)
      rw [List.exists_mem_cons_iff, List.exists_mem_cons_iff, List.exists_mem_cons_iff, ihup,
        ibreak, idrop]
      cases hn with
      | fail hh => cases hh <;> simp [Event.Breaks]
      | fault since pings n w b t => simp [Event.Breaks]
      | _ => grind [Event.Breaks, Event.published?, Track.Hands, Stage.published]

/-- How a time as connected ends: the keypad is published as disconnected if the device hung up,
and as closing if something broke or, the device still there, shutdown has been called. -/
theorem Tracks.ending (ht : Tracks k h q) {t t' : Nat} {y : ConnectionState}
    (hs : ⟨t', .published y⟩ :: (between ++ ⟨t, .published .connected⟩ :: older) <:+ h)
    (hb : collect Event.published? between = []) :
    (y = .disconnected ↔ HungUpIn between) ∧
      (y = .closing ↔ BrokenIn between ∨
        ¬HungUpIn between ∧ ToldIn (between ++ ⟨t, .published .connected⟩ :: older)) := by
  obtain ⟨p, p', hp, hn⟩ := ht.at hs
  obtain ⟨hup, hbreaks, -⟩ := hp.span hb
  have hpub : p.stage.published = .connected :=
    hp.published.symm.trans (publishedIn_span hb)
  rw [hup, hbreaks, ← hp.told_iff]
  -- the three rules that lead away from a state published as connected
  cases hn with
  | abandon n w b t => simp
  | stop since pings n w t => simp
  | part n w b t => simp
  | _ => exact nomatch hpub

/-- The device is heard only while the keypad is published as connected. -/
theorem Tracks.heard (ht : Tracks k h q) {e : Stamped} {past : List Stamped}
    (he : e :: past <:+ h)
    (hd : (∃ m, e.event = .modeChanged m) ∨ ∃ c, e.event = .hungUp c ∨ e.event.Breaks c) :
    publishedIn past = .connected := by
  obtain ⟨p, p', hp, hn⟩ := ht.at he
  rw [hp.published]
  cases hn with
  | hand hh => exact absurd hd (by simp [Event.Breaks])
  | fail hh => cases hh <;> rfl
  | changeMode | hangUp | fault => rfl
  | _ => exact absurd hd (by simp [Event.Breaks])

namespace State

/-- When the device has hung up, the session publishes so in its next two steps. -/
theorem Stands.parts {s : State} (hs : s.Stands q) (hq : q.stage = .hungUp ∨ q.stage = .lost) :
    (s.run [.move .act, .move .act]).published = .disconnected := by
  obtain ⟨g, n, w, b⟩ := q
  obtain ⟨settings, now, phase, cancelled, joinable, published, mode, tracker, snapshot, queue,
    calls, callCount, attempts, connections, history⟩ := s
  obtain ⟨fits, hp, -, -, -⟩ := hs
  obtain rfl : published = g.published := hp
  cases phase with
  | ended e =>
    cases e with
    | hungUp => obtain rfl : g = .hungUp := fits; rfl
    | failed => obtain rfl : g = .failed := fits; simp at hq
    | shutdown => obtain ⟨⟨_, _, rfl⟩, -⟩ := fits; simp at hq
  | leaving =>
    rcases fits with rfl | rfl | rfl
    · simp at hq
    · rfl
    · simp at hq
  | _ => grind [Phase.Fits]

/-- When something has broken, the session publishes that it closes in its next step. -/
theorem Stands.abandons {s : State} (hs : s.Stands q) (hq : q.stage = .failed) :
    (s.run [.move .act]).published = .closing := by
  obtain ⟨g, n, w, b⟩ := q
  obtain rfl : g = .failed := hq
  obtain ⟨settings, now, phase, cancelled, joinable, published, mode, tracker, snapshot, queue,
    calls, callCount, attempts, connections, history⟩ := s
  obtain ⟨fits, hp, -, -, -⟩ := hs
  obtain rfl : published = .connected := hp
  cases phase with
  | ended e =>
    cases e with
    | failed => rfl
    | _ => grind [Phase.Fits]
  | _ => grind [Phase.Fits]

/-- The session takes a step, and the line it hands over, if any, goes over. -/
def proceed : List Turn := [.move .act, .move .handed]

/-- Whether the session comes to close its connection, all lines going over. -/
def Closes (s : State) : Prop :=
  ∃ n, (s.run (List.replicate n proceed).flatten).published = .closing

theorem closes_of_run_proceed {s : State} (h : (s.run proceed).Closes) : s.Closes := by
  obtain ⟨n, hn⟩ := h
  refine ⟨n + 1, ?_⟩
  rwa [List.replicate_succ, List.flatten_cons, run_append]

/-- The rest of the queue goes over, then the session closes the connection. -/
theorem closes_of_flushing {s : State} (hp : s.phase = .flushing) (hc : s.published = .connected) :
    s.Closes := by
  obtain ⟨settings, now, phase, cancelled, joinable, published, mode, tracker, snapshot, queue,
    calls, callCount, attempts, connections, history⟩ := s
  obtain rfl : phase = .flushing := hp
  obtain rfl : published = .connected := hc
  induction queue generalizing history with
  | nil => exact ⟨2, rfl⟩
  | cons x r ih => exact closes_of_run_proceed (ih _)

theorem closes_of_live {s : State} {d : Nat} (hp : s.phase = .live d) (ht : s.cancelled = true)
    (hc : s.published = .connected) : s.Closes := by
  obtain ⟨settings, now, phase, cancelled, joinable, published, mode, tracker, snapshot, queue,
    calls, callCount, attempts, connections, history⟩ := s
  obtain rfl : phase = .live d := hp
  obtain rfl : cancelled = true := ht
  exact closes_of_run_proceed (closes_of_flushing rfl hc)

/-- When shutdown has been called, a connected session that has not lost its device comes to
close. -/
theorem Stands.closes {s : State} (hs : s.Stands q) (ht : q.told = true)
    (hpub : q.stage.published = .connected) (hup : ¬(q.stage = .hungUp ∨ q.stage = .lost))
    (hcrash : q.stage ≠ .crashed) (hb : s.settings.HasHeartbeat s.now) : s.Closes := by
  obtain ⟨g, n, w, b⟩ := q
  obtain ⟨settings, now, phase, cancelled, joinable, published, mode, tracker, snapshot, queue,
    calls, callCount, attempts, connections, history⟩ := s
  obtain ⟨fits, hp, -, -, hc⟩ := hs
  obtain rfl : b = true := ht
  obtain rfl : cancelled = true := hc
  obtain rfl : published = .connected := hp.trans hpub
  -- whatever is being handed over goes over, then the queue, and then the session closes
  cases phase with
  | greeting =>
    refine closes_of_run_proceed ?_
    change (setHeartbeat (record _ (.handed connections .greeting settings.syncLine))).Closes
    exact (congrArg Closes (if_pos hb)).mpr (closes_of_live rfl rfl rfl)
  | live d => exact closes_of_live rfl rfl rfl
  | sending x d => exact closes_of_run_proceed (closes_of_live rfl rfl rfl)
  | pinging d => exact closes_of_run_proceed (closes_of_live rfl rfl rfl)
  | flushing => exact closes_of_flushing rfl rfl
  | flushSending x => exact closes_of_run_proceed (closes_of_flushing rfl rfl)
  | ended e =>
    cases e with
    | hungUp => exact absurd (.inl fits) hup
    | failed | shutdown => exact ⟨1, rfl⟩
  | leaving =>
    rcases fits with rfl | rfl | rfl
    · exact nomatch hpub
    · exact absurd (.inr rfl) hup
    · exact nomatch hpub
  | crashed => exact absurd fits hcrash
  | _ =>
    obtain rfl : g = _ := fits
    exact nomatch hpub

end State

/-- On every run subscribers hear of exactly the values that the published state takes, each next to
the one before it on an edge. The device that hangs up, and nothing else, leads from connected to
disconnected, and the session publishes that in its next two steps; what breaks, or a call for
shutdown, leads from connected to closing, at once or when the lines of the queue have gone over;
and the mode changes only while connected. -/
theorem lifecycle (k : KeypadSettings) (ts : List Turn) :
    let s := (State.init k).run ts
    connectionNotices s.history = (State.init k).valuesTaken ts ∧
      List.IsChain Edge (.disconnected :: connectionNotices s.history) ∧
      publishedIn s.history = s.published ∧
      (∀ t t' y between older,
        ⟨t', .published y⟩ :: (between ++ ⟨t, .published .connected⟩ :: older) <:+ s.history →
        collect Event.published? between = [] →
        (y = .disconnected ↔ HungUpIn between) ∧
          (y = .closing ↔ BrokenIn between ∨
            ¬HungUpIn between ∧ ToldIn (between ++ ⟨t, .published .connected⟩ :: older))) ∧
      (∀ t between older, s.history = between ++ ⟨t, .published .connected⟩ :: older →
        collect Event.published? between = [] →
        (HungUpIn between → (s.run [.move .act, .move .act]).published = .disconnected) ∧
          (BrokenIn between → (s.run [.move .act]).published = .closing) ∧
          (ToldIn s.history → ¬HungUpIn between → ¬DroppedIn between →
            k.HasHeartbeat s.now → s.Closes)) ∧
      ∀ e past, e :: past <:+ s.history →
        ((∃ m, e.event = .modeChanged m) ∨ ∃ c, e.event = .hungUp c ∨ e.event.Breaks c) →
        publishedIn past = .connected := by
  intro s
  obtain ⟨q, ht, hs⟩ := State.run_tracked k ts
  have hvalues : connectionNotices s.history = (State.init k).valuesTaken ts :=
    (connectionNotices_eq _).trans (State.published_run (State.init k) ts)
  refine ⟨hvalues, ?_, ht.published.trans hs.published.symm, ?_, ?_, ?_⟩
  · rw [connectionNotices_eq]
    exact ht.isChain
  · exact fun t t' y between older he hb => ht.ending he hb
  · intro t between older he hb
    obtain ⟨hup, hbreaks, hdrop⟩ := Tracks.span (he ▸ ht) hb
    refine ⟨fun hx => hs.parts (hup.mp hx), fun hx => hs.abandons (hbreaks.mp hx),
      fun htold hnup hndrop hbeat => ?_⟩
    have hpub : q.stage.published = .connected :=
      ht.published.symm.trans (he ▸ publishedIn_span hb)
    have hsettings : s.settings = k := State.settings_run _ ts
    refine hs.closes (ht.told_iff.mpr htold) hpub (hup.not.mp hnup)
      (fun hq => hndrop (hdrop.mpr (.inr hq))) ?_
    rw [hsettings]
    exact hbeat
  · exact fun e past he hd => ht.heard he hd

set_option maxRecDepth 10000 in
/-- A device that hangs up right after the first line. -/
theorem lifecycle_hungUp :
    HungUpIn [⟨0, .dropped 1⟩, ⟨0, .hungUp 1⟩, ⟨0, .handed 1 .greeting "!SYNC:0,0"⟩] := by
  obtain ⟨-, -, -, hends, -⟩ := lifecycle .default (Turn.begins ++ Turn.rests)
  let older := ((State.init .default).run Turn.begins).history.drop 2
  exact (hends 0 0 .disconnected _ older (by decide +kernel) rfl).1.mp rfl

end AlarmKeypad.Session
