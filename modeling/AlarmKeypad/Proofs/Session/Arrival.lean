import AlarmKeypad.Proofs.Session.Linked

namespace AlarmKeypad.Session

open Device

def Event.received? (c : Nat) : Event → Option String
  | .received d line => if d = c then some line else none
  | _ => none

def receivedOn (c : Nat) (h : List Stamped) : List String := collect (Event.received? c) h

/-- Whether a turn opens a connection or brings a line. -/
def Turn.arrives : Turn → Bool
  | .move .opened | .move (.received _) => true
  | _ => false

theorem Turn.arrives_of_not_wired {t : Turn} (h : ¬t.isWired = true) : t.arrives = false := by
  unfold arrives
  split
  · exact absurd rfl h
  · exact absurd rfl h
  · rfl

namespace State

variable {s s' : State}

structure SameArrivals (s s' : State) : Prop where
  connections : s'.connections = s.connections
  received : ∀ c, receivedOn c s'.history = receivedOn c s.history

theorem SameArrivals.trans {s'' : State} (h : s.SameArrivals s') (h' : s'.SameArrivals s'') :
    s.SameArrivals s'' :=
  ⟨h'.connections.trans h.connections, fun c => (h'.received c).trans (h.received c)⟩

theorem sameArrivals_record (s : State) {e : Event} (he : ∀ c, e.received? c = none) :
    s.SameArrivals (s.record e) :=
  ⟨rfl, fun c => by simp [receivedOn, record, he c]⟩

theorem sameArrivals_goTo (s : State) {e : Event} (he : ∀ c, e.received? c = none) (p : Phase) :
    s.SameArrivals ((s.record e).goTo p) :=
  ⟨rfl, (s.sameArrivals_record he).received⟩

theorem sameArrivals_act (h : s.act? = some s') : s.SameArrivals s' := by
  unfold act? at h
  split at h <;>
    grind [SameArrivals, record, goTo, drop, publish, receivedOn, collect_cons, Event.received?]

theorem sameArrivals_call (s : State) (r : Request) : s.SameArrivals (s.call r) := by
  cases r <;>
    grind [SameArrivals, call, record, returned, waiting, offer, receivedOn, collect_cons,
      Event.received?]

theorem sameArrivals_resume {id : Nat} (h : s.resume? id = some s') : s.SameArrivals s' := by
  unfold resume? at h
  split at h <;>
    grind [SameArrivals, record, returned, waiting, receivedOn, collect_cons, Event.received?]

theorem sameArrivals_afterHanding (s : State) : s.SameArrivals s.afterHanding := by
  unfold afterHanding
  split <;>
    grind [SameArrivals, setHeartbeat, goTo, drop, record, receivedOn, collect_cons,
      Event.received?]

theorem sameArrivals_move {m : Move} (h : s.move? m = some s')
    (hm : (Turn.move m).arrives = false) : s.SameArrivals s' := by
  cases m with
  | elapse ms =>
    obtain ⟨-, hs⟩ := Option.ite_none_right_eq_some.mp h
    exact Option.some.inj hs ▸ ⟨rfl, fun _ => rfl⟩
  | call r => exact Option.some.inj h ▸ sameArrivals_call s r
  | resume id => exact sameArrivals_resume h
  | act => exact sameArrivals_act h
  | opened | received => exact nomatch hm
  | handed =>
    obtain ⟨⟨source, line⟩, -, rfl⟩ := Option.map_eq_some_iff.mp h
    exact (s.sameArrivals_record fun _ => rfl).trans (sameArrivals_afterHanding _)
  | handFailed =>
    obtain ⟨⟨source, line⟩, -, rfl⟩ := Option.map_eq_some_iff.mp h
    exact s.sameArrivals_goTo (fun _ => rfl) _
  | closed =>
    obtain ⟨-, rfl⟩ := of_closed? h
    exact s.sameArrivals_goTo (fun _ => rfl) _
  | refused | faulted | hungUp =>
    obtain ⟨-, hs⟩ := Option.ite_none_right_eq_some.mp h
    exact Option.some.inj hs ▸ s.sameArrivals_goTo (fun _ => rfl) _

theorem sameArrivals_turn (s : State) {t : Turn} (ht : t.arrives = false) :
    s.SameArrivals (s.turn t) := by
  cases h : s.turn? t with
  | none =>
    rw [turn_eq_self h]
    exact ⟨rfl, fun _ => rfl⟩
  | some s' =>
    rw [turn_eq h]
    cases t with
    | move m => exact sameArrivals_move h ht
    | late ms => exact Option.some.inj h ▸ ⟨rfl, fun _ => rfl⟩

/-- A line is one more that has come over the connection, and the session stands where it stood. -/
theorem ingest_arrives (s : State) (line : String) :
    (s.ingest line).connections = s.connections ∧ (s.ingest line).phase = s.phase ∧
      (s.ingest line).cancelled = s.cancelled ∧
      ∀ c, receivedOn c (s.ingest line).history =
        receivedOn c s.history ++ if s.connections = c then [line] else [] := by
  have hline (c : Nat) : receivedOn c (s.record (.received s.connections line)).history =
      receivedOn c s.history ++ if s.connections = c then [line] else [] := by
    rw [receivedOn, record, collect_cons, Event.received?]
    split <;> rfl
  cases hsnap : Snapshot.ofLine? line with
  | none =>
    unfold ingest
    rw [hsnap]
    exact ⟨rfl, rfl, rfl, hline⟩
  | some snap =>
    rw [ingest_of_snapshot s hsnap, taking]
    split
    · exact ⟨rfl, rfl, rfl, hline⟩
    · exact ⟨rfl, rfl, rfl, fun c => (List.append_nil _).trans (hline c)⟩

theorem listens_ingest {line : String} (h : s.Listens) : (s.ingest line).Listens := by
  obtain ⟨-, hphase, hcancelled, -⟩ := s.ingest_arrives line
  unfold Listens at h ⊢
  rwa [hphase, hcancelled]

/-- Lines bring their snapshots. -/
theorem snapshots_foldl_ingest (s : State) (lines : List String) :
    snapshots (lines.foldl ingest s).history =
      snapshots s.history ++ lines.filterMap Snapshot.ofLine? := by
  induction lines generalizing s with
  | nil => exact (List.append_nil _).symm
  | cons line lines ih =>
    refine (ih (s.ingest line)).trans ?_
    cases hsnap : Snapshot.ofLine? line with
    | none =>
      rw [List.filterMap_cons_none hsnap]
      exact congrArg (· ++ _) (s.saysNothing_ingest hsnap).snapshots
    | some snap =>
      rw [List.filterMap_cons_some hsnap, snapshots_ingest hsnap, List.append_assoc]
      rfl

end State

namespace Linked

variable {w : Linked}

/-- The lines that the keypad has received on its last connection. -/
def received (w : Linked) : List String := receivedOn w.session.connections w.session.history

/-- The lines received are the first of the stream, and none belong to a later connection. -/
structure Receives (w : Linked) : Prop where
  carries : w.link.Carries w.stream w.received
  fresh : ∀ c, w.session.connections < c → receivedOn c w.session.history = []

theorem receives_mk {s : State} {l : Link} {st : Stream} {earlier : List Stream}
    {ss : List String} (hl : l.Carries st ss) (hs : receivedOn s.connections s.history = ss)
    (hfresh : ∀ c, s.connections < c → receivedOn c s.history = []) :
    Receives ⟨s, l, st, earlier⟩ := by
  subst hs
  exact ⟨hl, hfresh⟩

theorem receives_same {s s' : State} {l : Link} {st : Stream} {earlier : List Stream}
    (hl : l.Carries st (receivedOn s.connections s.history)) (hsame : s.SameArrivals s')
    (hfresh : ∀ c, s.connections < c → receivedOn c s.history = []) :
    Receives ⟨s', l, st, earlier⟩ := by
  refine receives_mk hl ?_ fun c hc => (hsame.received c).trans (hfresh c (hsame.connections ▸ hc))
  rw [hsame.connections, hsame.received]

theorem receives_new (k : KeypadSettings) : (new k).Receives :=
  receives_mk Link.carries_empty rfl fun _ _ => rfl

namespace Receives

variable (h : w.Receives)
include h

theorem session_turn (t : Session.Turn) : (w.turn (.session t)).Receives := by
  rw [turn]
  split
  case isTrue => exact h
  case isFalse hwired =>
    have hsame := w.session.sameArrivals_turn (Session.Turn.arrives_of_not_wired hwired)
    exact receives_same h.carries hsame h.fresh

/-- A connection that opens has brought nothing yet. -/
theorem opened : (w.turn .opened).Receives := by
  rw [turn]
  cases ho : w.session.opened? with
  | none => exact h
  | some s =>
    obtain ⟨-, hs⟩ := Option.ite_none_right_eq_some.mp ho
    obtain rfl := Option.some.inj hs
    have hfresh (c : Nat) (hc : w.session.connections < c) : receivedOn c
        (⟨w.session.now, .opened (w.session.connections + 1)⟩ :: w.session.history) = [] :=
      (List.append_nil _).trans (h.fresh c hc)
    exact receives_mk Link.carries_empty (hfresh _ (Nat.lt_succ_self _))
      fun c hc => hfresh c (Nat.lt_of_succ_lt hc)

theorem received_opened (ho : w.session.opened?.isSome = true) :
    (w.turn .opened).received = [] := by
  obtain ⟨s, hs⟩ := Option.isSome_iff_exists.mp ho
  have hlines := h.opened.carries.lines_eq
  have hstream : (w.turn .opened).stream = .empty := by rw [Linked.turn, hs]
  rw [hstream] at hlines
  exact (List.append_eq_nil_iff.mp hlines.symm).1

theorem bytes (bs : List UInt8) : (w.turn (.bytes bs)).Receives :=
  ⟨h.carries.push bs, h.fresh⟩

theorem finish : (w.turn .finish).Receives := ⟨h.carries.hangUp, h.fresh⟩

/-- What a look at the link finds, to a keypad that listens. -/
theorem read_eq (hl : w.session.Listens) : w.turn .read = w ∧ w.link.found? = none ∨
    (∃ l, w.turn .read = { w with session := w.session.turn (.move .hungUp), link := l } ∧
      w.stream.ended = true ∧ w.received = w.stream.lines ∧
      l.Carries w.stream w.received) ∨
    ∃ line rest l, w.turn .read = { w with session := w.session.ingest line, link := l } ∧
      w.link.waiting = line :: rest ∧ l.Carries w.stream (w.received ++ [line]) := by
  rw [turn_read hl]
  cases hfound : w.link.found? with
  | none => exact .inl ⟨read_of_not_found h.carries hfound, rfl⟩
  | some i =>
    obtain ⟨l, hl', hread⟩ := read_of_found h.carries hfound
    have hlines := h.carries.lines_eq
    unfold Link.found? at hfound
    cases hwaiting : w.link.waiting with
    | cons line rest =>
      rw [hwaiting] at hfound
      obtain rfl := Option.some.inj hfound
      refine .inr (.inr ⟨line, rest, l, ?_, rfl, hl'⟩)
      rw [hread]
      exact congrArg (Linked.mk · l w.stream w.earlier) (State.turn_received hl line)
    | nil =>
      rw [hwaiting] at hfound hlines
      obtain ⟨hended, hi⟩ := Option.ite_none_right_eq_some.mp hfound
      obtain rfl := Option.some.inj hi
      rw [List.append_nil] at hlines
      have hcarries : l.Carries w.stream w.received := by
        rw [← List.append_nil w.received]
        exact hl'
      exact .inr (.inl ⟨l, hread, h.carries.ended ▸ hended, hlines.symm, hcarries⟩)

theorem read : (w.turn .read).Receives := by
  by_cases hl : w.session.Listens
  · rcases h.read_eq hl with ⟨hread, -⟩ | ⟨l, hread, -, -, hcarries⟩ |
      ⟨line, rest, l, hread, -, hcarries⟩
    · exact hread.symm ▸ h
    · have hsame := w.session.sameArrivals_turn (t := .move .hungUp) rfl
      rw [hread]
      exact receives_same hcarries hsame h.fresh
    · obtain ⟨hconnections, -, -, hreceived⟩ := w.session.ingest_arrives line
      rw [hread]
      refine receives_mk hcarries ?_ fun c hc => ?_
      · rw [hconnections, hreceived, if_pos rfl]
        rfl
      · have hlt : w.session.connections < c := hconnections ▸ hc
        rw [hreceived, h.fresh c hlt, if_neg (Nat.ne_of_lt hlt)]
        rfl
  · exact (turn_read_of_not hl).symm ▸ h

theorem turn (t : Turn) : (w.turn t).Receives := by
  cases t with
  | session t => exact h.session_turn t
  | opened => exact h.opened
  | bytes bs => exact h.bytes bs
  | finish => exact h.finish
  | read => exact h.read

theorem run (ts : List Turn) : (w.run ts).Receives := by
  induction ts generalizing w with
  | nil => exact h
  | cons t ts ih => exact ih (h.turn t)

/-- A turn that opens no connection brings lines, and with them their snapshots. -/
theorem news_turn (t : Turn) : w.session.connections ≤ (w.turn t).session.connections ∧
    ((w.turn t).session.connections = w.session.connections →
      ∃ news, (w.turn t).received = w.received ++ news ∧
        snapshots (w.turn t).session.history =
          snapshots w.session.history ++ news.filterMap Snapshot.ofLine?) := by
  have hnone {s : State} (l : Link) (st : Stream) (hsame : w.session.SameArrivals s)
      (hquiet : w.session.SaysNothing s) : w.session.connections ≤ s.connections ∧
        (s.connections = w.session.connections →
          ∃ news, received ⟨s, l, st, w.earlier⟩ = w.received ++ news ∧ snapshots s.history =
            snapshots w.session.history ++ news.filterMap Snapshot.ofLine?) := by
    refine ⟨hsame.connections.ge, fun hc => ⟨[], ?_, ?_⟩⟩
    · rw [List.append_nil, received, received, hc, hsame.received]
    · exact hquiet.snapshots.trans (List.append_nil _).symm
  have hself (l : Link) (st : Stream) := hnone l st ⟨rfl, fun _ => rfl⟩ ⟨rfl, rfl, rfl, rfl, rfl⟩
  cases t with
  | session t =>
    unfold Linked.turn
    dsimp only
    split
    case isTrue => exact hself w.link w.stream
    case isFalse hwired =>
      refine hnone w.link w.stream
        (w.session.sameArrivals_turn (Session.Turn.arrives_of_not_wired hwired))
        (w.session.saysNothing_turn ?_)
      rintro line rfl
      exact absurd rfl hwired
  | opened =>
    unfold Linked.turn
    dsimp only
    cases ho : w.session.opened? with
    | none => exact hself w.link w.stream
    | some s =>
      obtain ⟨-, hs⟩ := Option.ite_none_right_eq_some.mp ho
      obtain rfl := Option.some.inj hs
      exact ⟨Nat.le_succ _, fun hc => absurd hc (Nat.succ_ne_self _)⟩
  | bytes bs => exact hself _ _
  | finish => exact hself _ _
  | read =>
    by_cases hl : w.session.Listens
    · rcases h.read_eq hl with ⟨hread, -⟩ | ⟨l, hread, -⟩ | ⟨line, rest, l, hread, -⟩
      · exact hread.symm ▸ hself w.link w.stream
      · rw [hread]
        exact hnone l w.stream (w.session.sameArrivals_turn rfl) (w.session.saysNothing_turn nofun)
      · obtain ⟨hconnections, -, -, hreceived⟩ := w.session.ingest_arrives line
        rw [hread]
        refine ⟨hconnections.ge, fun _ => ⟨[line], ?_, w.session.snapshots_foldl_ingest [line]⟩⟩
        unfold received
        rw [hconnections, hreceived, if_pos rfl]
    · exact (turn_read_of_not hl).symm ▸ hself w.link w.stream

theorem news_run (ts : List Turn) : w.session.connections ≤ (w.run ts).session.connections ∧
    ((w.run ts).session.connections = w.session.connections →
      ∃ news, (w.run ts).received = w.received ++ news ∧
        snapshots (w.run ts).session.history =
          snapshots w.session.history ++ news.filterMap Snapshot.ofLine?) := by
  induction ts generalizing w with
  | nil => exact ⟨Nat.le_refl _, fun _ => ⟨[], by simp [Linked.run], by simp [Linked.run]⟩⟩
  | cons t ts ih =>
    obtain ⟨hle, hturn⟩ := h.news_turn t
    obtain ⟨hle', hrun⟩ := ih (h.turn t)
    refine ⟨hle.trans hle', fun hc => ?_⟩
    have hc' : (w.turn t).session.connections = w.session.connections :=
      Nat.le_antisymm (hc ▸ hle') hle
    obtain ⟨news, hreceived, hsnapshots⟩ := hturn hc'
    obtain ⟨news', hreceived', hsnapshots'⟩ := hrun (hc.trans hc'.symm)
    refine ⟨news ++ news', ?_, ?_⟩
    · rw [← List.append_assoc, ← hreceived]
      exact hreceived'
    · rw [List.filterMap_append, ← List.append_assoc, ← hsnapshots]
      exact hsnapshots'

/-- A keypad that reads what waits takes in one line after the other. -/
theorem run_reads (hl : w.session.Listens) {lines rest : List String}
    (hlines : w.link.waiting = lines ++ rest) :
    let w' := w.run (List.replicate lines.length .read)
    w'.session = lines.foldl State.ingest w.session ∧ w'.link.waiting = rest ∧
      w'.stream = w.stream ∧ w'.received = w.received ++ lines := by
  induction lines generalizing w with
  | nil => exact ⟨rfl, hlines, rfl, (List.append_nil _).symm⟩
  | cons line lines ih =>
    obtain ⟨line', rest', l, hread, hwaiting, hcarries⟩ : ∃ line rest l,
        w.turn .read = { w with session := w.session.ingest line, link := l } ∧
        w.link.waiting = line :: rest ∧ l.Carries w.stream (w.received ++ [line]) := by
      rcases h.read_eq hl with ⟨-, hnone⟩ | ⟨-, -, -, hall, -⟩ | hline
      · exact nomatch hnone.symm.trans (Link.found?_of_cons hlines)
      · have hnil := (List.self_eq_append_right.mp (hall.trans h.carries.lines_eq))
        exact nomatch hnil.symm.trans hlines
      · exact hline
    obtain ⟨rfl, rfl⟩ := List.cons.inj (hwaiting.symm.trans hlines)
    have hnext : l.waiting = lines ++ rest := by
      have heq := hcarries.lines_eq.symm.trans h.carries.lines_eq
      rw [List.append_assoc, hwaiting] at heq
      exact List.cons.inj (List.append_cancel_left heq) |>.2
    have hturn := h.turn .read
    rw [hread] at hturn
    obtain ⟨hconnections, -, -, hreceived⟩ := w.session.ingest_arrives line'
    obtain ⟨hsession, hrest, hstream, hall⟩ := ih hturn (State.listens_ingest hl) hnext
    have hrun : w.run (List.replicate (line' :: lines).length .read) =
        Linked.run { w with session := w.session.ingest line', link := l }
          (List.replicate lines.length .read) := by
      rw [← hread]
      rfl
    rw [hrun]
    refine ⟨hsession, hrest, hstream, hall.trans ?_⟩
    have hone : received { w with session := w.session.ingest line', link := l } =
        w.received ++ [line'] := by
      unfold received
      dsimp only
      rw [hconnections, hreceived, if_pos rfl]
    rw [hone, ← List.append_cons]

end Receives
end Linked
end AlarmKeypad.Session
