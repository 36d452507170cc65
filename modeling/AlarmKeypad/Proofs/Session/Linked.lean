import AlarmKeypad.Proofs.Framing.Link
import AlarmKeypad.Proofs.Session.Dull
import AlarmKeypad.Scenario.World
/-!
# A keypad on a stream of bytes

A keypad reads what its connection brings. If all that is no line with a snapshot is left out of
the streams of a run, there is a run on what remains that differs only in bytes and in looks at
them, and it says the same of the mode.
-/

namespace AlarmKeypad.Session

open Device

structure Linked where
  session : State
  link : Link
  /-- What has come over the link; the keypad does not see it. -/
  stream : Stream
  /-- What came over the links before, the last in front. -/
  earlier : List Stream

/-- What a connection alone can bring. -/
def Turn.isWired : Turn → Bool
  | .move (.received _) | .move .hungUp | .move .opened => true
  | _ => false

namespace Linked

inductive Turn where
  /-- What does not come over the stream. -/
  | session (t : Session.Turn)
  /-- The connection opens, with a link of its own. -/
  | opened
  /-- Bytes come. -/
  | bytes (bs : List UInt8)
  /-- The device ends the stream. -/
  | finish
  /-- The keypad reads, if it listens and there is something to read. -/
  | read
deriving DecidableEq

def new (k : KeypadSettings) : Linked := ⟨.init k, .empty true, .empty, []⟩

def read (w : Linked) : Linked :=
  match w.link.next? with
  | some (i, l) => { w with session := w.session.turn (.move (Scenario.World.moveOf i)), link := l }
  | none => w

def turn (w : Linked) : Turn → Linked
  | .session t => if t.isWired then w else { w with session := w.session.turn t }
  | .opened =>
    match w.session.opened? with
    | some s => ⟨s, .empty true, .empty, w.stream :: w.earlier⟩
    | none => w
  | .bytes bs => { w with link := w.link.push bs, stream := w.stream.push bs }
  | .finish => { w with link := w.link.hangUp, stream := w.stream.finish }
  | .read => if w.session.Listens then w.read else w

def run (w : Linked) (ts : List Turn) : Linked := ts.foldl turn w

theorem turn_read {w : Linked} (h : w.session.Listens) : w.turn .read = w.read := if_pos h

theorem turn_read_of_not {w : Linked} (h : ¬w.session.Listens) : w.turn .read = w := if_neg h

def Turn.isOther : Turn → Bool
  | .bytes _ | .read => false
  | .session _ | .opened | .finish => true

/-- The second keypad is where the first is, with all that is dull left out of its streams. -/
structure Follows (w w' : Linked) : Prop where
  session : w'.session = w.session.pruned
  stream : w'.stream = w.stream.kept bringsSnapshot
  earlier : w'.earlier = w.earlier.map (Stream.kept bringsSnapshot)
  carries : ∃ ss, w.link.Carries w.stream ss ∧
    w'.link.Carries w'.stream (ss.filter bringsSnapshot)

variable {w w' : Linked}

theorem follows_new (k : KeypadSettings) : (new k).Follows (new k) :=
  ⟨rfl, rfl, rfl, [], Link.carries_empty, Link.carries_empty⟩

/-- What is found comes to the session, and the link goes on behind it. -/
theorem read_of_found {i : Item} {ss : List String} (h : w.link.Carries w.stream ss)
    (hfound : w.link.found? = some i) :
    ∃ l, l.Carries w.stream (ss ++ i.line?.toList) ∧ w.read =
      { w with session := w.session.turn (.move (Scenario.World.moveOf i)), link := l } := by
  obtain ⟨hnext, hbehind⟩ := h.next?
  obtain ⟨⟨j, l⟩, hl, rfl⟩ := Option.map_eq_some_iff.mp (hnext.trans hfound)
  exact ⟨l, hbehind j l hl, by rw [Linked.read, hl]⟩

theorem read_of_not_found {ss : List String} (h : w.link.Carries w.stream ss)
    (hfound : w.link.found? = none) : w.read = w := by
  rw [Linked.read, Option.map_eq_none_iff.mp (h.next?.1.trans hfound)]

namespace Follows

theorem session_turn (h : w.Follows w') (t : Session.Turn) :
    (w.turn (.session t)).Follows (w'.turn (.session t)) := by
  rw [turn, turn]
  split
  case isTrue => exact h
  case isFalse hwired =>
    have hdull : t.isDull = false := by
      unfold Session.Turn.isDull
      split
      · exact absurd rfl hwired
      · rfl
    refine ⟨?_, h.stream, h.earlier, h.carries⟩
    change w'.session.turn t = _
    rw [h.session, State.turn_pruned hdull]

theorem opened (h : w.Follows w') : (w.turn .opened).Follows (w'.turn .opened) := by
  have hopened : w'.session.opened? = w.session.opened?.map State.pruned := by
    rw [h.session]
    exact State.move?_pruned (m := .opened) rfl
  rw [turn, turn, hopened]
  cases w.session.opened? with
  | none => exact h
  | some s =>
    exact ⟨rfl, rfl, congrArg₂ List.cons h.stream h.earlier, [], Link.carries_empty,
      Link.carries_empty⟩

theorem bytes (h : w.Follows w') (bs : List UInt8) :
    ∃ more, (w.turn (.bytes bs)).Follows (w'.turn (.bytes more)) := by
  obtain ⟨ss, hcarries, hcarries'⟩ := h.carries
  obtain ⟨more, hmore⟩ := w.stream.exists_kept_push bringsSnapshot bs
  refine ⟨more, h.session, ?_, h.earlier, ss, hcarries.push bs, hcarries'.push more⟩
  exact (congrArg (Stream.push · more) h.stream).trans hmore.symm

theorem finish (h : w.Follows w') :
    ∃ more, (w.turn .finish).Follows ((w'.turn (.bytes more)).turn .finish) := by
  obtain ⟨ss, hcarries, hcarries'⟩ := h.carries
  obtain ⟨more, hmore⟩ := w.stream.exists_kept_finish bringsSnapshot
  refine ⟨more, h.session, ?_, h.earlier, ss, hcarries.hangUp, (hcarries'.push more).hangUp⟩
  exact (congrArg (fun st => (Stream.push st more).finish) h.stream).trans hmore.symm

/-- What waits on the second link is what is kept of what waits on the first. -/
theorem waiting_eq (h : w.Follows w') :
    w'.link.waiting = w.link.waiting.filter bringsSnapshot := by
  obtain ⟨ss, hcarries, hcarries'⟩ := h.carries
  have hlines := hcarries'.lines_eq
  -- the lines read so far are kept alike, so they cancel in front of those that wait
  rw [h.stream, Stream.lines_kept rfl, hcarries.lines_eq, List.filter_append] at hlines
  exact (List.append_cancel_left hlines).symm

theorem ended_eq (h : w.Follows w') : w'.link.ended = w.link.ended := by
  obtain ⟨ss, hcarries, hcarries'⟩ := h.carries
  rw [hcarries.ended, hcarries'.ended, h.stream]
  rfl

/-- Both read the same, unless it is dull. -/
theorem read_same (h : w.Follows w') (hfound : w'.link.found? = w.link.found?)
    (hkept : ∀ i ∈ w.link.found?, ∀ s ∈ i.line?, bringsSnapshot s = true) :
    w.read.Follows w'.read := by
  obtain ⟨ss, hcarries, hcarries'⟩ := h.carries
  cases hi : w.link.found? with
  | none =>
    rw [read_of_not_found hcarries hi, read_of_not_found hcarries' (hfound.trans hi)]
    exact h
  | some i =>
    obtain ⟨l, hl, hread⟩ := read_of_found hcarries hi
    obtain ⟨l', hl', hread'⟩ := read_of_found hcarries' (hfound.trans hi)
    have hline := hkept i hi
    have hdull : (Session.Turn.move (Scenario.World.moveOf i)).isDull = false := by
      cases i with
      | line s => simp [Session.Turn.isDull, Scenario.World.moveOf, hline s rfl]
      | fault | hangUp => rfl
    have hline' : i.line?.toList.filter bringsSnapshot = i.line?.toList :=
      List.filter_eq_self.mpr fun s hs => hline s (Option.mem_toList.mp hs)
    rw [hread, hread']
    refine ⟨?_, h.stream, h.earlier, ss ++ i.line?.toList, hl, ?_⟩
    · change w'.session.turn _ = _
      rw [h.session, State.turn_pruned hdull]
    · rw [List.filter_append, hline']
      exact hl'

theorem read_dull (h : w.Follows w') {s : String} (hfound : w.link.found? = some (.line s))
    (hs : bringsSnapshot s = false) : w.read.Follows w' := by
  obtain ⟨ss, hcarries, hcarries'⟩ := h.carries
  obtain ⟨l, hl, hread⟩ := read_of_found hcarries hfound
  have hdull : (Session.Turn.move (.received s)).isDull = true := by
    simp [Session.Turn.isDull, hs]
  rw [hread]
  refine ⟨?_, h.stream, h.earlier, ss ++ [s], hl, ?_⟩
  · exact h.session.trans (State.turn_dull hdull).symm
  · rw [List.filter_append, List.filter_cons_of_neg (by simp [hs]), List.filter_nil,
      List.append_nil]
    exact hcarries'

/-- A look finds the same for both, or for the first alone a line that is left out. -/
theorem read (h : w.Follows w') : w.read.Follows w' ∨ w.read.Follows w'.read := by
  have hwaiting := h.waiting_eq
  cases hlines : w.link.waiting with
  | nil =>
    have hfound : w'.link.found? = w.link.found? := by
      rw [hlines] at hwaiting
      rw [Link.found?_of_nil hlines, Link.found?_of_nil hwaiting, h.ended_eq]
    refine .inr (h.read_same hfound fun i hi s hs => ?_)
    rw [Link.found?_of_nil hlines] at hi
    cases i <;> grind [Item.line?]
  | cons s rest =>
    have hfound := Link.found?_of_cons hlines
    cases hs : bringsSnapshot s with
    | false => exact .inl (h.read_dull hfound hs)
    | true =>
      rw [hlines, List.filter_cons_of_pos hs] at hwaiting
      refine .inr (h.read_same (hfound ▸ Link.found?_of_cons hwaiting) fun i hi s' hs' => ?_)
      obtain rfl := Option.some.inj (hfound.symm.trans hi)
      exact Option.some.inj hs' ▸ hs

theorem listens_iff (h : w.Follows w') : w'.session.Listens ↔ w.session.Listens := by
  rw [h.session]
  rfl

/-- The second keypad follows each turn, by the same turn unless it is bytes or a look at them. -/
theorem turn (h : w.Follows w') (t : Turn) : ∃ us,
    us.filter Turn.isOther = [t].filter Turn.isOther ∧ (w.turn t).Follows (w'.run us) := by
  cases t with
  | session t => exact ⟨[.session t], rfl, h.session_turn t⟩
  | opened => exact ⟨[.opened], rfl, h.opened⟩
  | bytes bs =>
    obtain ⟨more, hmore⟩ := h.bytes bs
    exact ⟨[.bytes more], rfl, hmore⟩
  | finish =>
    obtain ⟨more, hmore⟩ := h.finish
    -- a last line without a line feed is known to be kept only now, and comes before the end
    exact ⟨[.bytes more, .finish], rfl, hmore⟩
  | read =>
    by_cases hlistens : w.session.Listens
    · have hturn' : w'.run [.read] = w'.read := turn_read (h.listens_iff.mpr hlistens)
      rw [turn_read hlistens]
      rcases h.read with hdull | hsame
      · exact ⟨[], rfl, hdull⟩
      · exact ⟨[.read], rfl, hturn' ▸ hsame⟩
    · rw [turn_read_of_not hlistens]
      exact ⟨[], rfl, h⟩

end Follows

theorem run_append (w : Linked) (ts us : List Turn) : w.run (ts ++ us) = (w.run ts).run us :=
  List.foldl_append

/-- What is kept of the streams of a run is the streams of a run. -/
theorem Follows.run (h : w.Follows w') (ts : List Turn) : ∃ us,
    us.filter Turn.isOther = ts.filter Turn.isOther ∧ (w.run ts).Follows (w'.run us) := by
  induction ts generalizing w w' with
  | nil => exact ⟨[], rfl, h⟩
  | cons t ts ih =>
    obtain ⟨us, hus, hturn⟩ := h.turn t
    obtain ⟨us', hus', hrun⟩ := ih hturn
    refine ⟨us ++ us', ?_, run_append w' us us' ▸ hrun⟩
    rw [List.filter_append, hus, hus', ← List.filter_append, List.singleton_append]

/-- A keypad on its link takes turns of a session. -/
theorem exists_session_turn (w : Linked) (t : Turn) :
    ∃ us, (w.turn t).session = w.session.run us := by
  cases t with
  | session t =>
    by_cases hwired : t.isWired = true
    · exact ⟨[], congrArg session (if_pos hwired)⟩
    · exact ⟨[t], congrArg session (if_neg hwired)⟩
  | opened =>
    refine ⟨[.move .opened], ?_⟩
    rw [turn, State.run_cons, State.run_nil, State.turn, State.turn?, State.move?]
    cases w.session.opened? <;> rfl
  | bytes bs => exact ⟨[], rfl⟩
  | finish => exact ⟨[], rfl⟩
  | read =>
    by_cases hlistens : w.session.Listens
    · rw [turn_read hlistens, read]
      cases w.link.next? with
      | none => exact ⟨[], rfl⟩
      | some r => exact ⟨[.move (Scenario.World.moveOf r.1)], rfl⟩
    · exact ⟨[], congrArg session (turn_read_of_not hlistens)⟩

theorem exists_session_run (w : Linked) (ts : List Turn) :
    ∃ us, (w.run ts).session = w.session.run us := by
  induction ts generalizing w with
  | nil => exact ⟨[], rfl⟩
  | cons t ts ih =>
    obtain ⟨us, hus⟩ := w.exists_session_turn t
    obtain ⟨us', hus'⟩ := ih (w.turn t)
    exact ⟨us ++ us', by rw [State.run_append, ← hus, ← hus']; rfl⟩

theorem agrees_run (k : KeypadSettings) (ts : List Turn) : ((new k).run ts).session.Agrees := by
  obtain ⟨us, hus⟩ := (new k).exists_session_run ts
  rw [hus]
  exact State.agrees_run k us

end Linked

/-- On every run the mode and its changes are those of the snapshots that have come: subscribers
hear of each step between unequal modes, in turn from the unknown mode on, and callers see the last
snapshot and its mode. A snapshot comes with each line that reads as one. Nothing else says anything of the mode. Without the lines that bring no
snapshot, be it among the turns of the session or in the bytes of its connections, all is said as
with them. -/
theorem modes_follow_snapshots (k : KeypadSettings) :
    (∀ ts : List Turn,
      let s := (State.init k).run ts
      let snaps := snapshots s.history
      changes s.history = changesAlong .unknown (snaps.map DisplayMode.ofState) ∧
        List.IsChain (fun c d => c.after = d.before) (changes s.history) ∧
        (∀ c ∈ (changes s.history).head?, c.before = .unknown) ∧
        (∀ c ∈ changes s.history, c.before ≠ c.after) ∧
        s.snapshot = snaps.getLast? ∧
        s.mode = s.tracker ∧ s.tracker = DisplayMode.ofSnapshot s.snapshot ∧
        (∀ line snap, s.Listens → Snapshot.ofLine? line = some snap →
          snapshots (s.turn (.move (.received line))).history = snaps ++ [snap]) ∧
        (∀ t : Turn, (∀ line, t = .move (.received line) → Snapshot.ofLine? line = none) →
          (s.turn t).word = s.word) ∧
        ((State.init k).run (ts.filter fun t => !t.isDull)).word = s.word) ∧
    ∀ ts : List Linked.Turn,
      let w := (Linked.new k).run ts
      (∃ us, w.session = (State.init k).run us) ∧
        ∃ us, us.filter Linked.Turn.isOther = ts.filter Linked.Turn.isOther ∧
          let w' := (Linked.new k).run us
          w'.stream = w.stream.kept bringsSnapshot ∧
            w'.earlier = w.earlier.map (Stream.kept bringsSnapshot) ∧
            w'.session.word = w.session.word := by
  refine ⟨fun ts => ?_, fun ts => ?_⟩
  · intro s snaps
    have hagrees := State.agrees_run k ts
    have hchanges : changes s.history = changesAlong .unknown (snaps.map DisplayMode.ofState) :=
      (changes_eq _).trans hagrees.changes
    have hsteps := @changesAlong_chain .unknown (snaps.map DisplayMode.ofState)
    rw [← hchanges] at hsteps
    obtain ⟨hchain, hhead, hne⟩ := hsteps
    have hword : ((State.init k).run (ts.filter fun t => !t.isDull)).word = s.word := by
      have hrun := State.run_pruned (s := State.init k) ts
      exact (congrArg State.word hrun).trans (State.word_pruned s)
    have hcomes (line : String) (snap : Snapshot) (hl : s.Listens)
        (hsnap : Snapshot.ofLine? line = some snap) :
        snapshots (s.turn (.move (.received line))).history = snaps ++ [snap] := by
      rw [State.turn_received hl]
      exact State.snapshots_ingest hsnap
    exact ⟨hchanges, hchain, hhead, hne, hagrees.snapshot, hagrees.mode, hagrees.tracker, hcomes,
      fun t ht => (State.saysNothing_turn s ht).word_eq, hword⟩
  · intro w
    obtain ⟨us, hus, hfollows⟩ := (Linked.follows_new k).run ts
    have hword : ((Linked.new k).run us).session.word = w.session.word := by
      rw [hfollows.session, State.word_pruned]
    exact ⟨(Linked.new k).exists_session_run ts, us, hus, hfollows.stream, hfollows.earlier, hword⟩

end AlarmKeypad.Session
