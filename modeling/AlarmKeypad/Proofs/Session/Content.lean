import AlarmKeypad.Proofs.Session.Advance
import AlarmKeypad.Proofs.Session.Arrival

namespace AlarmKeypad

namespace Device.Link

/-- What the keypad reads next of a stream, a fault included that what comes may lead to. -/
def tryNextOfStream? (l : Link) : Option (Item × Link) :=
  match l.buffer.tryNext with
  | (.error _, b) => some (.fault, { l with buffer := b })
  | (.ok (some s), b) => some (.line s, { l with buffer := b })
  | (.ok none, b) =>
    if l.ended then
      match b.tryNextLast with
      | (.error _, b) => some (.fault, { l with buffer := b })
      | (.ok (some s), b) => some (.line s, { l with buffer := b })
      | (.ok none, b) => some (.hangUp, { l with buffer := b })
    else none

/-- Nothing that comes over a stream leads to a fault. -/
theorem tryNextOfStream?_eq (l : Link) : l.tryNextOfStream? = l.nextOfStream? := by
  unfold tryNextOfStream? nextOfStream?
  rw [LineBuffer.tryNext_eq]
  rcases l.buffer.next with ⟨_ | s, b⟩
  · dsimp only
    rw [LineBuffer.tryNextLast_eq]
    rcases b.nextLast with ⟨_ | s, b'⟩ <;> rfl
  · rfl

end Device.Link

namespace Session

open Device

/-- Nothing of what a device has said is kept. -/
def Mask.blank : Mask := ⟨fun _ => false, false⟩

/-- The moves that end a connection in this way. -/
def Ending.causes : Ending → List Move
  | .hungUp => [.hungUp]
  | .failed => [.faulted, .handFailed]
  | .shutdown => [.act]

namespace State

variable {s s' : State}

/-- All that a line leaves behind is what the device has said. -/
theorem ingest_under_blank (s : State) (line : String) :
    (s.ingest line).under .blank = s.under .blank := by
  have hline := s.under_record_hidden (v := .blank) (e := .received s.connections line) rfl
  cases hsnap : Snapshot.ofLine? line with
  | none =>
    unfold ingest
    rw [hsnap]
    exact hline
  | some snap =>
    rw [ingest_of_snapshot s hsnap, taking]
    split
    · exact hline
    · rw [under_record_hidden rfl]
      exact hline

theorem ended_of_act {e : Ending} (h : s.act? = some s') (hp : s'.phase = .ended e) :
    e = .shutdown := by
  unfold act? at h
  split at h <;> grind [record, goTo, drop, publish]

theorem ended_of_afterHanding {e : Ending} (hp : s.afterHanding.phase = .ended e) :
    s.phase = .ended e := by
  unfold afterHanding at hp
  split at hp <;> grind [setHeartbeat, goTo, drop, record]

/-- A connection ends by one of its causes only. -/
theorem causes_of_turn {t : Turn} {e : Ending} (h : s.turn? t = some s')
    (hp : s.phase ≠ .ended e) (hp' : s'.phase = .ended e) : ∃ m ∈ e.causes, t = .move m := by
  have hleaves : s.Leaves t := by
    by_contra hl
    exact hp ((advances_turn h).phase hl ▸ hp')
  cases t with
  | late ms => exact hleaves.elim
  | move m =>
    refine ⟨m, ?_, rfl⟩
    cases m with
    | elapse | call | received => exact hleaves.elim
    | act => exact ended_of_act h hp' ▸ List.mem_singleton_self _
    | resume id => grind [turn?, move?, resume?, Leaves, record, returned, waiting]
    | opened | refused => grind [turn?, move?, opened?, refused?, goTo, record]
    | handed =>
      obtain ⟨⟨source, line⟩, -, rfl⟩ := Option.map_eq_some_iff.mp h
      exact absurd (ended_of_afterHanding hp') hp
    | handFailed =>
      obtain ⟨⟨source, line⟩, -, rfl⟩ := Option.map_eq_some_iff.mp h
      exact Phase.ended.inj hp' ▸ by decide
    | faulted | hungUp =>
      obtain ⟨-, hs⟩ := Option.ite_none_right_eq_some.mp h
      obtain rfl := Option.some.inj hs
      exact Phase.ended.inj hp' ▸ by decide
    | closed =>
      obtain ⟨-, rfl⟩ := of_closed? h
      cases hp'

end State

namespace Linked

variable {w w' : Linked}

/-- What a turn of the stream is: what the device sends, its end, or a look at it. -/
def Turn.isStream : Turn → Bool
  | .bytes _ | .finish | .read => true
  | .session _ | .opened => false

/-- The keypad has read all of a stream that has ended. -/
def AtEnd (w : Linked) : Prop :=
  w.session.Listens ∧ w.stream.ended = true ∧ w.received = w.stream.lines

/-- What comes over a stream leaves nothing behind but what the device has said, unless the stream
is at its end. -/
theorem Receives.turn_stream (h : w.Receives) {t : Turn} (ht : t.isStream = true) :
    (w.turn t).session.under .blank = w.session.under .blank ∨
      t = .read ∧ w.AtEnd ∧ (w.turn t).session = w.session.turn (.move .hungUp) := by
  cases t with
  | session | opened => exact nomatch ht
  | bytes | finish => exact .inl rfl
  | read =>
    by_cases hl : w.session.Listens
    · rcases h.read_eq hl with ⟨hread, -⟩ | ⟨l, hread, hended, hall, -⟩ |
        ⟨line, rest, l, hread, -, -⟩
      · exact .inl (by rw [hread])
      · exact .inr ⟨rfl, ⟨hl, hended, hall⟩, congrArg Linked.session hread⟩
      · rw [hread]
        exact .inl (w.session.ingest_under_blank line)
    · exact .inl (by rw [turn_read_of_not hl])

/-- A connection ends at the end of its stream, or for what is no input from the device. -/
theorem Receives.ended (h : w.Receives) {t : Turn} {e : Ending} (hp : w.session.phase ≠ .ended e)
    (hp' : (w.turn t).session.phase = .ended e) :
    e = .hungUp ∧ t = .read ∧ w.AtEnd ∨
      ∃ m ∈ e.causes, (Session.Turn.move m).isWired = false ∧ t = .session (.move m) := by
  have hcauses {u : Session.Turn} (hu : (w.session.turn u).phase = .ended e) :
      ∃ m ∈ e.causes, u = .move m := by
    cases ht : w.session.turn? u with
    | none => exact absurd (State.turn_eq_self ht ▸ hu) hp
    | some s => exact State.causes_of_turn ht hp (State.turn_eq ht ▸ hu)
  have hstream (ht : t.isStream = true) : e = .hungUp ∧ t = .read ∧ w.AtEnd := by
    rcases h.turn_stream ht with hsame | ⟨hread, hend, hhung⟩
    · exact absurd ((congrArg State.phase hsame).symm.trans hp') hp
    · rw [hhung] at hp'
      obtain ⟨m, hm, hmove⟩ := hcauses hp'
      obtain rfl : .hungUp = m := Turn.move.inj hmove
      cases e with
      | hungUp => exact ⟨rfl, hread, hend⟩
      | failed | shutdown => exact absurd hm (by decide)
  cases t with
  | bytes bs => exact .inl (hstream rfl)
  | finish => exact .inl (hstream rfl)
  | read => exact .inl (hstream rfl)
  | session t =>
    rw [Linked.turn] at hp'
    split at hp'
    case isTrue => exact absurd hp' hp
    case isFalse hwired =>
      obtain ⟨m, hm, rfl⟩ := hcauses hp'
      exact .inr ⟨m, hm, Bool.eq_false_of_not_eq_true hwired, rfl⟩
  | opened =>
    rw [Linked.turn] at hp'
    cases ho : w.session.opened? with
    | none =>
      rw [ho] at hp'
      exact absurd hp' hp
    | some s =>
      obtain ⟨-, hs⟩ := Option.ite_none_right_eq_some.mp ho
      rw [ho, ← Option.some.inj hs] at hp'
      cases hp'

def Turn.isBytes : Turn → Bool
  | .bytes _ => true
  | _ => false

/-- The second keypad is where the first is, but its devices have said nothing. -/
structure Hushes (w w' : Linked) : Prop where
  receives : w.Receives
  session : w'.session = w.session.under .blank
  stream : w'.stream = ⟨[], w.stream.ended⟩
  carries : w'.link.Carries w'.stream []

theorem hushes_new (k : KeypadSettings) : (new k).Hushes (new k) :=
  ⟨receives_new k, rfl, rfl, Link.carries_empty⟩

namespace Hushes

variable (h : w.Hushes w')
include h

theorem session_turn (t : Session.Turn) :
    (w.turn (.session t)).Hushes (w'.turn (.session t)) := by
  have hreceives := h.receives.session_turn t
  unfold Linked.turn at hreceives ⊢
  dsimp only at hreceives ⊢
  split
  case isTrue => exact h
  case isFalse hwired =>
    rw [if_neg hwired] at hreceives
    have hline (line : String) : t ≠ .move (.received line) := by
      rintro rfl
      exact hwired rfl
    refine ⟨hreceives, ?_, h.stream, h.carries⟩
    change w'.session.turn t = (w.session.turn t).under .blank
    rw [h.session, State.turn_under hline]

theorem opened : (w.turn .opened).Hushes (w'.turn .opened) := by
  have hreceives := h.receives.opened
  have hopened : w'.session.opened? = w.session.opened?.map (State.under .blank) := by
    rw [h.session]
    exact State.move?_under (m := .opened) nofun
  unfold Linked.turn at hreceives ⊢
  rw [hopened]
  cases ho : w.session.opened? with
  | none => exact h
  | some s =>
    rw [ho] at hreceives
    exact ⟨hreceives, rfl, rfl, Link.carries_empty⟩

theorem bytes (bs : List UInt8) : (w.turn (.bytes bs)).Hushes w' := by
  refine ⟨h.receives.bytes bs, h.session, h.stream.trans ?_, h.carries⟩
  change Stream.mk [] w.stream.ended = ⟨[], (w.stream.push bs).ended⟩
  unfold Stream.push
  split <;> rfl

theorem finish : (w.turn .finish).Hushes (w'.turn .finish) :=
  ⟨h.receives.finish, h.session, congrArg Stream.finish h.stream, h.carries.hangUp⟩

/-- The keypad whose device is silent looks only when the stream has come to its end. -/
theorem read : (w.turn .read).Hushes w' ∨ (w.turn .read).Hushes (w'.turn .read) := by
  have hreceives := h.receives.read
  by_cases hl : w.session.Listens
  · rcases h.receives.read_eq hl with ⟨hread, -⟩ | ⟨l, hread, hended, -, -⟩ |
      ⟨line, rest, l, hread, -, -⟩
    · exact .inl (hread.symm ▸ h)
    · have hl' : w'.session.Listens := h.session ▸ hl
      have hwaiting : w'.link.waiting = [] := by
        have hlines := h.carries.lines_eq
        rw [h.stream] at hlines
        exact hlines.symm.trans (by cases w.stream.ended <;> rfl)
      have hfound : w'.link.found? = some .hangUp := by
        rw [Link.found?_of_nil hwaiting, h.carries.ended, h.stream, if_pos hended]
      obtain ⟨l', hcarries', hread'⟩ := read_of_found h.carries hfound
      rw [← turn_read hl'] at hread'
      rw [hread] at hreceives ⊢
      rw [hread']
      refine .inr ⟨hreceives, ?_, h.stream, hcarries'⟩
      change w'.session.turn (.move .hungUp) = (w.session.turn (.move .hungUp)).under .blank
      rw [h.session, State.turn_under (t := .move .hungUp) nofun]
    · rw [hread] at hreceives ⊢
      exact .inl ⟨hreceives, h.session.trans (w.session.ingest_under_blank line).symm, h.stream,
        h.carries⟩
  · exact .inl ((turn_read_of_not hl).symm ▸ h)

/-- Every turn but one that brings bytes or looks at them is taken alike. -/
theorem turn (t : Turn) : ∃ us, us.filter Turn.isOther = [t].filter Turn.isOther ∧
    (∀ u ∈ us, u.isBytes = false) ∧ (w.turn t).Hushes (w'.run us) := by
  cases t with
  | session t => exact ⟨[.session t], rfl, by simp [Turn.isBytes], h.session_turn t⟩
  | opened => exact ⟨[.opened], rfl, by simp [Turn.isBytes], h.opened⟩
  | bytes bs => exact ⟨[], rfl, by simp, h.bytes bs⟩
  | finish => exact ⟨[.finish], rfl, by simp [Turn.isBytes], h.finish⟩
  | read =>
    rcases h.read with hsame | hread
    · exact ⟨[], rfl, by simp, hsame⟩
    · exact ⟨[.read], rfl, by simp [Turn.isBytes], hread⟩

theorem run (ts : List Turn) : ∃ us, us.filter Turn.isOther = ts.filter Turn.isOther ∧
    (∀ u ∈ us, u.isBytes = false) ∧ (w.run ts).Hushes (w'.run us) := by
  induction ts generalizing w w' with
  | nil => exact ⟨[], rfl, by simp, h⟩
  | cons t ts ih =>
    obtain ⟨us, hus, hbytes, hturn⟩ := h.turn t
    obtain ⟨us', hus', hbytes', hrun⟩ := ih hturn
    refine ⟨us ++ us', ?_, ?_, run_append w' us us' ▸ hrun⟩
    · rw [List.filter_append, hus, hus', ← List.filter_append, List.singleton_append]
    · exact List.forall_mem_append.mpr ⟨hbytes, hbytes'⟩

end Hushes
end Linked

theorem State.foldl_ingest_under_blank (s : State) (lines : List String) :
    (lines.foldl ingest s).under .blank = s.under .blank := by
  induction lines generalizing s with
  | nil => rfl
  | cons line lines ih => exact (ih (s.ingest line)).trans (s.ingest_under_blank line)

/-- A segment with a text is a line, whatever stands before it and behind it. -/
theorem mem_lines_of_segment {st : Stream} {seg : List UInt8} {line : String}
    (hseg : seg ∈ LineDecoder.segments st.bytes)
    (hline : LineDecoder.textOf? maxLineLength seg = some line) : line ∈ st.lines := by
  have hwhole : line ∈ LineDecoder.wholeLines maxLineLength st.bytes :=
    List.mem_filterMap.mpr ⟨seg, hseg, hline⟩
  unfold Stream.lines
  split
  · exact List.mem_append_left _ hwhole
  · exact hwhole

theorem mem_snapshots_of_received {c : Nat} {h : List Stamped} {line : String} {snap : Snapshot}
    (hline : line ∈ receivedOn c h) (hsnap : Snapshot.ofLine? line = some snap) :
    snap ∈ snapshots h := by
  obtain ⟨e, he, hreceived⟩ := mem_collect.mp hline
  refine mem_collect.mpr ⟨e, he, ?_⟩
  unfold Event.received? at hreceived
  split at hreceived
  case h_1 d line' hevent =>
    obtain ⟨-, hsame⟩ := Option.ite_none_right_eq_some.mp hreceived
    obtain rfl := Option.some.inj hsame
    rw [hevent]
    exact hsnap
  case h_2 => exact nomatch hreceived

/-- No input ends a connection. After any run of a keypad on its links: no bytes on a link lead to a
fault; a connection fails only because the stream itself fails or a line could not be handed over,
and hangs up only when the stream has ended and all its lines have been received; what comes over
the stream leaves nothing behind but the line and what it says of the mode, so it publishes nothing
and hands nothing over. All the rest of the run is as if the devices had sent no byte. A keypad that
reads on receives every line that has come, and takes in the snapshot of every segment that is one,
whatever bytes stand before it. -/
theorem input_ends_no_connection (k : KeypadSettings) (ts : List Linked.Turn) :
    let w := (Linked.new k).run ts
    (∀ l : Link, l.tryNextOfStream? = l.nextOfStream?) ∧
      (∀ t, w.session.phase ≠ .ended .failed → (w.turn t).session.phase = .ended .failed →
        t = .session (.move .faulted) ∨ t = .session (.move .handFailed)) ∧
      (∀ t, w.session.phase ≠ .ended .hungUp → (w.turn t).session.phase = .ended .hungUp →
        t = .read ∧ w.stream.ended = true ∧ w.received = w.stream.lines) ∧
      (∀ t : Linked.Turn, t.isStream = true →
        (w.turn t).session.under .blank = w.session.under .blank ∨ t = .read ∧ w.AtEnd) ∧
      (∃ us, us.filter Linked.Turn.isOther = ts.filter Linked.Turn.isOther ∧
        (∀ u ∈ us, u.isBytes = false) ∧
        ((Linked.new k).run us).session = w.session.under .blank) ∧
      (w.session.Listens →
        let w' := w.run (List.replicate w.link.waiting.length .read)
        w'.session.under .blank = w.session.under .blank ∧ w'.received = w.stream.lines ∧
          snapshots w'.session.history =
            snapshots w.session.history ++ w.link.waiting.filterMap Snapshot.ofLine? ∧
          w'.session.snapshot = (snapshots w'.session.history).getLast? ∧
          ∀ seg ∈ LineDecoder.segments w.stream.bytes, ∀ line,
            LineDecoder.textOf? maxLineLength seg = some line →
              ∀ snap ∈ Snapshot.ofLine? line, snap ∈ snapshots w'.session.history) := by
  intro w
  have hreceives : w.Receives := (Linked.receives_new k).run ts
  refine ⟨Link.tryNextOfStream?_eq, fun t hp hp' => ?_, fun t hp hp' => ?_, fun t ht => ?_, ?_,
    fun hl => ?_⟩
  · obtain ⟨he, -⟩ | ⟨m, hm, -, rfl⟩ := hreceives.ended hp hp'
    · exact nomatch he
    · simpa [Ending.causes] using hm
  · obtain ⟨-, hread, -, hended, hall⟩ | ⟨m, hm, hwired, -⟩ := hreceives.ended hp hp'
    · exact ⟨hread, hended, hall⟩
    · obtain rfl := List.mem_singleton.mp hm
      exact nomatch hwired
  · exact (hreceives.turn_stream ht).imp_right fun ⟨hread, hend, _⟩ => ⟨hread, hend⟩
  · obtain ⟨us, hus, hbytes, hhushes⟩ := (Linked.hushes_new k).run ts
    exact ⟨us, hus, hbytes, hhushes.session⟩
  · intro w'
    obtain ⟨hsession, -, -, hall⟩ := hreceives.run_reads hl (List.append_nil w.link.waiting).symm
    have hunder := w.session.foldl_ingest_under_blank w.link.waiting
    have hsnapshots := w.session.snapshots_foldl_ingest w.link.waiting
    have hlines : w'.received = w.stream.lines := hall.trans hreceives.carries.lines_eq.symm
    have hagrees := Linked.agrees_run k (ts ++ List.replicate w.link.waiting.length .read)
    rw [Linked.run_append] at hagrees
    refine ⟨hsession ▸ hunder, hlines, hsession ▸ hsnapshots, hagrees.snapshot,
      fun seg hseg line hline snap hsnap => ?_⟩
    exact mem_snapshots_of_received (hlines ▸ mem_lines_of_segment hseg hline) hsnap

end Session
end AlarmKeypad
