import AlarmKeypad.Proofs.Framing.Encoding
import AlarmKeypad.Proofs.Replay.Loading
import AlarmKeypad.Proofs.Replay.Sharing
import AlarmKeypad.Proofs.Session.Arrival

namespace AlarmKeypad

namespace Replay

theorem Log.mem_lines_of_mem_entries {log : Log} {u : Nat} {l : String} (h : l ∈ log.entries u) :
    l ∈ log.lines := by
  obtain ⟨k, -, rfl⟩ := List.mem_map.mp (List.mem_of_mem_filter h)
  exact List.get_mem _ _

/-! ## Interleaving -/

namespace Interleaves

variable {α β : Type} {a b w : List α}

theorem filterMap (h : Interleaves a b w) (f : α → Option β) :
    Interleaves (a.filterMap f) (b.filterMap f) (w.filterMap f) := by
  induction h with
  | nil => exact .nil
  | left x _ ih =>
    cases hx : f x with
    | none => rwa [List.filterMap_cons_none hx, List.filterMap_cons_none hx]
    | some y =>
      rw [List.filterMap_cons_some hx, List.filterMap_cons_some hx]
      exact .left y ih
  | right x _ ih =>
    cases hx : f x with
    | none => rwa [List.filterMap_cons_none hx, List.filterMap_cons_none hx]
    | some y =>
      rw [List.filterMap_cons_some hx, List.filterMap_cons_some hx]
      exact .right y ih

theorem filter (h : Interleaves a b w) (p : α → Bool) :
    Interleaves (a.filter p) (b.filter p) (w.filter p) := by
  simpa only [List.filterMap_eq_filter] using h.filterMap (Option.guard p)

/-- What is done to all items by a function that can be undone can be undone. -/
theorem of_map {f : α → β} (hf : Function.Injective f)
    (h : Interleaves (a.map f) (b.map f) (w.map f)) : Interleaves a b w := by
  have hback := h.filterMap (Function.partialInv f)
  simpa only [List.filterMap_map, Function.comp_def, Function.partialInv_left hf,
    List.filterMap_some] using hback

theorem eq_left (h : Interleaves a [] w) : w = a := by
  generalize hb : ([] : List α) = b at h
  induction h with
  | nil => rfl
  | left x _ ih => rw [ih hb]
  | right x _ _ => exact nomatch hb

theorem mem (h : Interleaves a b w) {x : α} (hx : x ∈ w) : x ∈ a ∨ x ∈ b := by
  induction h with
  | nil => exact nomatch hx
  | left y _ ih => grind
  | right y _ ih => grind

end Interleaves

/-! ## What goes over the wire -/

namespace Session

/-- The lines that a session has written, the first in front. -/
def lines (s : Session) : List String := s.written.reverse.map Written.line

def outbound (s : Session) : List UInt8 :=
  s.written.reverse.flatMap fun w => Text.Utf8.encodeString w.text

end Session

/-- Whether a line and the carriage return behind it are short enough for a keypad. -/
def isShort (l : String) : Bool := l.utf8ByteSize < maxLineLength

theorem encodeString_text (w : Written) : Text.Utf8.encodeString w.text =
    (Text.Utf8.encodeString w.line ++ [LineDecoder.carriageReturn]) ++ [LineDecoder.lineFeed] := by
  have hend : Text.Utf8.encodeString "\r\n" =
      [LineDecoder.carriageReturn] ++ [LineDecoder.lineFeed] := by decide
  rw [Written.text, Text.Utf8.encodeString_append, hend, List.append_assoc]

theorem Session.outbound_eq (s : Session) : s.outbound = LineDecoder.terminated
    (s.lines.map fun l => Text.Utf8.encodeString l ++ [LineDecoder.carriageReturn]) := by
  unfold Session.outbound Session.lines LineDecoder.terminated
  rw [List.map_map, List.flatMap_map]
  exact congrArg (List.flatMap · _) (funext encodeString_text)

section
variable {ls : List String} (h : ∀ l ∈ ls, '\n' ∉ l.toList)
include h

theorem lineFeed_not_mem_segment : ∀ seg ∈ ls.map fun l =>
    Text.Utf8.encodeString l ++ [LineDecoder.carriageReturn], LineDecoder.lineFeed ∉ seg := by
  intro seg hseg
  obtain ⟨l, hl, rfl⟩ := List.mem_map.mp hseg
  rw [List.mem_append, LineDecoder.lineFeed_mem_encodeString, not_or]
  exact ⟨h l hl, by decide⟩

/-- Lines sent with a carriage return and a line feed behind them are read back, all but those that
are too long, and nothing is left. -/
theorem lines_of_segments :
    let sent := LineDecoder.terminated (ls.map fun l =>
      Text.Utf8.encodeString l ++ [LineDecoder.carriageReturn])
    LineDecoder.wholeLines maxLineLength sent = ls.filter isShort ∧
      LineDecoder.lastLine? maxLineLength sent = none := by
  intro sent
  have hsegs := LineDecoder.segments_terminated (lineFeed_not_mem_segment h) []
  have hrem := LineDecoder.remainder_terminated (ls.map fun l =>
    Text.Utf8.encodeString l ++ [LineDecoder.carriageReturn]) []
  rw [List.append_nil] at hsegs hrem
  constructor
  · change (LineDecoder.segments sent).filterMap _ = _
    rw [hsegs, LineDecoder.segments_of_not_mem List.not_mem_nil, List.append_nil,
      List.filterMap_map, ← List.filterMap_eq_filter]
    refine List.filterMap_congr fun l _ => ?_
    rw [Function.comp_apply, LineDecoder.textOf?_return, Option.guard, isShort]
    simp only [decide_eq_true_eq]
  · rw [LineDecoder.lastLine?, hrem, LineDecoder.remainder_of_not_mem List.not_mem_nil,
      if_pos (.inl rfl)]

end

theorem Session.lines_outbound {s : Session} (h : ∀ l ∈ s.lines, '\n' ∉ l.toList) :
    LineDecoder.wholeLines maxLineLength s.outbound = s.lines.filter isShort ∧
      LineDecoder.lastLine? maxLineLength s.outbound = none := by
  rw [s.outbound_eq]
  exact lines_of_segments h

/-! ## What a session sends -/

namespace Sessions

variable (log : Log) (ms : List Move) (i : Nat)

/-- What a session has written is entries of the log and among them its answers. -/
theorem lines_interleaves :
    Interleaves (log.entries ((live (turnsOf i false ms)).count (false, .tick)))
      (List.replicate ((live (turnsOf i false ms)).countP fun t => t.2.isPing) pongLine)
      ((new.run log ms).session i).lines := by
  have hcrlf : Function.Injective fun l : String => l ++ "\r\n" :=
    fun _ _ h => (String.append_left_inj "\r\n").mp h
  have hpong : pongLine ++ "\r\n" = "!PONG:00000000\r\n" := by decide
  have hsent := (sent_run log ms i).interleaves
  refine .of_map hcrlf ?_
  rw [List.map_replicate, hpong, Session.lines, List.map_map]
  exact hsent

theorem lineFeed_not_mem_lines {log : Log} (h : ∀ l ∈ log.lines, '\n' ∉ l.toList) :
    ∀ l ∈ ((new.run log ms).session i).lines, '\n' ∉ l.toList := by
  intro l hl
  rcases (lines_interleaves log ms i).mem hl with hl | hl
  · exact h l (Log.mem_lines_of_mem_entries hl)
  · rw [List.eq_of_mem_replicate hl]
    decide

/-- Answers are short, and say nothing of the mode. -/
theorem short_interleaves :
    let u := (live (turnsOf i false ms)).count (false, .tick)
    let short := ((new.run log ms).session i).lines.filter isShort
    Interleaves ((log.entries u).filter isShort)
        (List.replicate ((live (turnsOf i false ms)).countP fun t => t.2.isPing) pongLine) short ∧
      short.filterMap Snapshot.ofLine? =
        ((log.entries u).filter isShort).filterMap Snapshot.ofLine? := by
  intro u short
  have hshort := (lines_interleaves log ms i).filter isShort
  have hpong : isShort pongLine = true := by decide
  have hnone : Snapshot.ofLine? pongLine = none := by decide
  rw [List.filter_replicate_of_pos hpong] at hshort
  have hsnapshots := hshort.filterMap Snapshot.ofLine?
  rw [List.filterMap_replicate_of_none hnone] at hsnapshots
  exact ⟨hshort, hsnapshots.eq_left⟩

end Sessions

/-! ## What a keypad receives -/

section
variable {s : Session} (h : ∀ l ∈ s.lines, '\n' ∉ l.toList)
include h

/-- The lines of what has arrived are the first of the session's that are short enough. -/
theorem lines_isPrefix_of_arrived {st : Device.Stream} (hbytes : st.bytes <+: s.outbound)
    (hended : st.ended = true → st.bytes = s.outbound) :
    st.lines <+: s.lines.filter isShort ∧
      (st.bytes = s.outbound → st.lines = s.lines.filter isShort) := by
  obtain ⟨hwhole, hlast⟩ := Session.lines_outbound h
  have hall (heq : st.bytes = s.outbound) : st.lines = s.lines.filter isShort := by
    unfold Device.Stream.lines LineDecoder.lines
    rw [heq, hwhole, hlast]
    exact (ite_congr rfl (fun _ => List.append_nil _) fun _ => rfl).trans (ite_self _)
  refine ⟨?_, hall⟩
  cases he : st.ended with
  | true => exact (hall (hended he)).symm ▸ List.prefix_refl _
  | false =>
    unfold Device.Stream.lines
    rw [he, ← hwhole]
    exact LineDecoder.wholeLines_isPrefix hbytes

theorem feed_isPrefix_of_arrived {chunks : List (List UInt8)}
    (hbytes : chunks.flatten <+: s.outbound) :
    let fed := (LineBuffer.new maxLineLength).feed chunks
    fed.1 <+: s.lines.filter isShort ∧ (chunks.flatten = s.outbound →
      fed.1 = s.lines.filter isShort ∧ fed.2.drainLast.1 = []) := by
  intro fed
  obtain ⟨hwhole, hlast⟩ := Session.lines_outbound h
  obtain ⟨-, hfed, hlines⟩ := LineBuffer.feed_lines maxLineLength chunks
  refine ⟨?_, fun heq => ?_⟩
  · rw [← hwhole, show fed.1 = _ from hfed]
    exact LineDecoder.wholeLines_isPrefix hbytes
  · rw [heq, LineDecoder.lines, hwhole, hlast] at hlines
    rw [heq, hwhole] at hfed
    rw [hfed] at hlines
    exact ⟨hfed, List.append_cancel_left hlines⟩

end

open AlarmKeypad.Session (Linked changes edges)

/-- On a connection that has just been opened a keypad receives the lines of the stream, and its
mode changes as the snapshots among them say. -/
theorem changes_since_opened (k : KeypadSettings) (before after : List Linked.Turn)
    (hopens : ((Linked.new k).run before).session.opened?.isSome = true) :
    let opened := ((Linked.new k).run before).turn .opened
    let w := opened.run after
    w.session.connections = opened.session.connections →
      w.received ++ w.link.waiting = w.stream.lines ∧
        changes w.session.history = changes opened.session.history ++
          edges opened.session.mode (w.received.filterMap Snapshot.ofLine?) := by
  intro opened w hsame
  have hbefore := (Linked.receives_new k).run before
  have hreceives : opened.Receives := hbefore.turn .opened
  have hagrees := Linked.agrees_run k (before ++ [.opened])
  have hagrees' := Linked.agrees_run k (before ++ [.opened] ++ after)
  rw [Linked.run_append] at hagrees hagrees'
  rw [Linked.run_append] at hagrees'
  obtain ⟨news, hreceived, hsnapshots⟩ := (hreceives.news_run after).2 hsame
  have hnone : opened.received = [] := hbefore.received_opened hopens
  rw [hnone, List.nil_append] at hreceived
  refine ⟨(hreceives.run after).carries.lines_eq.symm, ?_⟩
  rw [hreceived]
  exact hagrees.changes_append hagrees' hsnapshots

/-- A keypad follows a replay. A session has written the entries of its log that its ticks outside
of pauses have come to, with an answer for every ping among them. However its bytes are cut into
chunks, the lines read from them are those that are short enough, with nothing left at the end; and
as long as only some have arrived, the first of them. A keypad to which the bytes of the session
come over a connection receives these lines, and its mode changes as the snapshots among them say:
once it has read all, as the short entries of the log say, and the answers are nothing to it. -/
theorem keypad_follows_replay {path : String} {file : List UInt8} {log : Log}
    (hlog : Log.load path (some file) = .ok log) (ms : List Move) (i : Nat) :
    let s := (Sessions.new.run log ms).session i
    let entries := log.entries ((live (turnsOf i false ms)).count (false, .tick))
    let answers := List.replicate ((live (turnsOf i false ms)).countP fun t => t.2.isPing) pongLine
    let short := s.lines.filter isShort
    Interleaves entries answers s.lines ∧
      Interleaves (entries.filter isShort) answers short ∧
      (∀ chunks : List (List UInt8), chunks.flatten <+: s.outbound →
        let fed := (LineBuffer.new maxLineLength).feed chunks
        LineBuffer.Feeds (.new maxLineLength) chunks fed.1 fed.2 ∧ fed.1 <+: short ∧
          (chunks.flatten = s.outbound → fed.1 = short ∧ fed.2.drainLast.1 = [])) ∧
      ∀ (k : KeypadSettings) (before after : List Linked.Turn),
        let opening := (Linked.new k).run before
        let opened := opening.turn .opened
        let w := opened.run after
        opening.session.opened?.isSome = true →
          w.session.connections = opened.session.connections →
          w.stream.bytes <+: s.outbound →
          (w.stream.ended = true → w.stream.bytes = s.outbound) →
          w.received <+: short ∧
            changes w.session.history = changes opened.session.history ++
              edges opened.session.mode (w.received.filterMap Snapshot.ofLine?) ∧
            (w.stream.bytes = s.outbound → w.link.waiting = [] →
              w.received = short ∧
                changes w.session.history = changes opened.session.history ++
                  edges opened.session.mode
                    ((entries.filter isShort).filterMap Snapshot.ofLine?)) := by
  intro s entries answers short
  have hlines : ∀ l ∈ s.lines, '\n' ∉ l.toList :=
    Sessions.lineFeed_not_mem_lines ms i (Log.lineFeed_not_mem hlog)
  obtain ⟨hshort, hsnapshots⟩ := Sessions.short_interleaves log ms i
  refine ⟨Sessions.lines_interleaves log ms i, hshort, fun chunks hchunks => ?_, ?_⟩
  · exact ⟨LineBuffer.feeds_feed (LineBuffer.valid_new _) chunks,
      feed_isPrefix_of_arrived hlines hchunks⟩
  · intro k before after opening opened w hopens hsame hbytes hended
    obtain ⟨hfirst, hall⟩ := lines_isPrefix_of_arrived hlines hbytes hended
    obtain ⟨hstream, hchanges⟩ := changes_since_opened k before after hopens hsame
    have hreceived : w.received <+: w.stream.lines := ⟨_, hstream⟩
    refine ⟨hreceived.trans hfirst, hchanges, fun heq hread => ?_⟩
    have hshort' : w.received = short := by
      rw [← show w.stream.lines = short from hall heq, ← hstream, hread, List.append_nil]
    refine ⟨hshort', hchanges.trans ?_⟩
    rw [show w.received = _ from hshort', hsnapshots]

/-- A panel that is armed and then ready, with an empty line between. -/
def armed : Log where
  lines := ["\x7b\"armed_away\":true\x7d", "", "\x7b\"ready\":true\x7d", ""]
  has_content := by decide

/-- The same in a file, one line of which ends with a carriage return too. -/
def armedFile : List UInt8 := Text.Utf8.encodeString
  "\x7b\"armed_away\":true\x7d\r\n\n\x7b\"ready\":true\x7d\n"

/-- A ping between the entries, and a pause. -/
def armedMoves : List Move :=
  [.turn 0 .tick, .turn 0 (.line "!PING:00000000"), .toggle, .turn 0 .tick, .toggle, .turn 0 .tick,
    .turn 0 .tick]

def dialing : List Linked.Turn :=
  [.session (.move (.call .connect)), .session (.move (.resume 0)), .session (.move .act),
    .session (.move .act)]

/-- The keypad is connected, and the bytes come in two chunks. -/
def following : List Linked.Turn :=
  let bytes := ((Sessions.new.run armed armedMoves).session 0).outbound
  [.session (.move .act), .session (.move .act), .session (.move .handed), .bytes (bytes.take 30),
    .read, .bytes (bytes.drop 30), .read, .read, .read]

set_option maxRecDepth 10000 in
theorem keypad_follows_armed :
    let w := (((Linked.new .default).run dialing).turn .opened).run following
    Log.load "panel.log" (some armedFile) = .ok armed ∧
      w.received = ["\x7b\"armed_away\":true\x7d", pongLine, "\x7b\"ready\":true\x7d"] ∧
      changes w.session.history = [⟨.unknown, .armedAway⟩, ⟨.armedAway, .ready⟩] := by
  intro w
  have hlines : armed.lines =
      (Text.splitAll '\n' (Text.Utf8.decodeLossy armedFile)).map Log.strip := by decide +kernel
  have hlog : Log.load "panel.log" (some armedFile) = .ok armed := by
    unfold Log.load
    dsimp only
    rw [Log.ofLines?_eq_some_iff.mpr hlines]
  obtain ⟨-, -, -, hkeypad⟩ := keypad_follows_replay hlog armedMoves 0
  have hbytes : w.stream.bytes = ((Sessions.new.run armed armedMoves).session 0).outbound := by
    decide +kernel
  obtain ⟨-, -, hread⟩ := hkeypad .default dialing following (by decide +kernel)
    (by decide +kernel) (hbytes ▸ List.prefix_refl _) fun _ => hbytes
  obtain ⟨hreceived, hchanges⟩ := hread hbytes (by decide +kernel)
  exact ⟨hlog, hreceived.trans (by decide +kernel), hchanges.trans (by decide +kernel)⟩

end Replay
end AlarmKeypad
