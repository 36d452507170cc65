import AlarmKeypad.Device
import AlarmKeypad.Proofs.Framing.Chunks
import AlarmKeypad.Proofs.Framing.Keeping

namespace AlarmKeypad.Device

/-- What has come over a connection, and whether that is all. -/
structure Stream where
  bytes : List UInt8
  ended : Bool
deriving DecidableEq

namespace Stream

def empty : Stream := ⟨[], false⟩

/-- Nothing comes after the end. -/
def push (st : Stream) (bs : List UInt8) : Stream :=
  if st.ended then st else { st with bytes := st.bytes ++ bs }

def finish (st : Stream) : Stream := { st with ended := true }

def lines (st : Stream) : List String :=
  if st.ended then LineDecoder.lines maxLineLength st.bytes
  else LineDecoder.wholeLines maxLineLength st.bytes

def kept (wanted : String → Bool) (st : Stream) : Stream where
  bytes := LineDecoder.keepWhole maxLineLength wanted st.bytes ++
    if st.ended then LineDecoder.keepLast maxLineLength wanted st.bytes else []
  ended := st.ended

theorem lines_kept {wanted : String → Bool} (hempty : wanted "" = false) (st : Stream) :
    (st.kept wanted).lines = st.lines.filter wanted := by
  obtain ⟨bytes, _ | _⟩ := st
  · exact LineDecoder.wholeLines_keep (by simp)
  · exact LineDecoder.lines_keep hempty

/-- As more comes, more is kept. -/
theorem exists_kept_push (wanted : String → Bool) (st : Stream) (bs : List UInt8) :
    ∃ more, (st.push bs).kept wanted = (st.kept wanted).push more := by
  obtain ⟨bytes, _ | _⟩ := st
  · obtain ⟨more, hmore⟩ : LineDecoder.keepWhole maxLineLength wanted bytes <+:
        LineDecoder.keepWhole maxLineLength wanted (bytes ++ bs) :=
      LineDecoder.keepWhole_isPrefix bytes bs
    exact ⟨more, by simp [kept, push, ← hmore]⟩
  · exact ⟨[], rfl⟩

/-- With the end of the stream comes its last line. -/
theorem exists_kept_finish (wanted : String → Bool) (st : Stream) :
    ∃ more, st.finish.kept wanted = ((st.kept wanted).push more).finish := by
  obtain ⟨bytes, _ | _⟩ := st
  · exact ⟨LineDecoder.keepLast maxLineLength wanted bytes, by simp [kept, push, finish]⟩
  · exact ⟨[], rfl⟩

end Stream

/-- The line that comes. -/
def Item.line? : Item → Option String
  | .line s => some s
  | .fault | .hangUp => none

namespace Link

def waiting (l : Link) : List String :=
  let bytes := l.buffer.decoder.ahead l.buffer.bytes
  if l.ended then LineDecoder.lines maxLineLength bytes
  else LineDecoder.wholeLines maxLineLength bytes

/-- What is found on the link: the first line that waits, or the end behind the last. -/
def found? (l : Link) : Option Item :=
  match l.waiting with
  | s :: _ => some (.line s)
  | [] => if l.ended then some .hangUp else none

/-- A stream has come over the link, and these of its lines have been read. -/
structure Carries (l : Link) (st : Stream) (ss : List String) : Prop where
  stream : l.stream = true
  ended : l.ended = st.ended
  gives : if st.ended then
      (LineDecoder.new maxLineLength).GivesLast st.bytes ss l.buffer.decoder l.buffer.bytes
    else (LineDecoder.new maxLineLength).Gives st.bytes ss l.buffer.decoder l.buffer.bytes

variable {l : Link} {st : Stream} {ss : List String}

theorem carries_empty : (empty true).Carries .empty [] :=
  ⟨rfl, rfl, LineDecoder.Gives.refl (LineBuffer.valid_new maxLineLength)⟩

namespace Carries

theorem valid (h : l.Carries st ss) : l.buffer.Valid := by
  obtain ⟨bytes, _ | _⟩ := st
  · exact LineDecoder.Gives.valid h.gives
  · exact LineDecoder.GivesLast.valid h.gives

theorem max_eq (h : l.Carries st ss) : l.buffer.decoder.max = maxLineLength := by
  obtain ⟨bytes, _ | _⟩ := st
  · exact LineDecoder.Gives.max_eq h.gives
  · exact LineDecoder.GivesLast.max_eq h.gives

/-- The lines of the stream are those that have been read and those that wait. -/
theorem lines_eq (h : l.Carries st ss) : st.lines = ss ++ l.waiting := by
  obtain ⟨-, hended, hgives⟩ := h
  unfold waiting
  obtain ⟨bytes, _ | _⟩ := st
  · have hwhole := LineDecoder.Gives.whole hgives []
    rw [List.append_nil, List.append_nil] at hwhole
    rw [hended]
    exact hwhole
  · rw [hended]
    exact LineDecoder.GivesLast.lines hgives

theorem push (h : l.Carries st ss) (bs : List UInt8) : (l.push bs).Carries (st.push bs) ss := by
  obtain ⟨hstream, hended, hgives⟩ := h
  unfold Link.push
  obtain ⟨bytes, _ | _⟩ := st
  · rw [hended, hstream]
    exact ⟨rfl, rfl, LineDecoder.Gives.append hgives bs⟩
  · rw [hended]
    exact ⟨hstream, hended, hgives⟩

theorem hangUp (h : l.Carries st ss) : l.hangUp.Carries st.finish ss := by
  obtain ⟨hstream, hended, hgives⟩ := h
  unfold Link.hangUp
  obtain ⟨bytes, _ | _⟩ := st
  · rw [hended]
    exact ⟨hstream, rfl, LineDecoder.Gives.givesLast hgives⟩
  · rw [hended]
    exact ⟨hstream, hended, hgives⟩

/-- Lines are read whatever comes behind them. -/
theorem read (h : l.Carries st ss) {ss' : List String} {b : LineBuffer}
    (hread : l.buffer.Gives ss' b) : ({ l with buffer := b } : Link).Carries st (ss ++ ss') ∧
      l.waiting = ss' ++ ({ l with buffer := b } : Link).waiting := by
  have hmax := h.max_eq
  obtain ⟨hstream, hended, hgives⟩ := h
  unfold waiting
  obtain ⟨bytes, _ | _⟩ := st
  · have hwhole := hread.whole []
    rw [List.append_nil, List.append_nil, hmax] at hwhole
    rw [hended]
    exact ⟨⟨hstream, rfl, LineDecoder.Gives.trans hgives hread⟩, hwhole⟩
  · have hlines := hread.givesLast.lines
    rw [hmax] at hlines
    rw [hended]
    exact ⟨⟨hstream, rfl, LineDecoder.GivesLast.trans hgives hread.givesLast⟩, hlines⟩

/-- Lines are read off a stream that has ended. -/
theorem readLast (h : l.Carries st ss) (he : l.ended = true) {ss' : List String} {b : LineBuffer}
    (hread : l.buffer.GivesLast ss' b) : ({ l with buffer := b } : Link).Carries st (ss ++ ss') ∧
      l.waiting = ss' ++ ({ l with buffer := b } : Link).waiting := by
  have hlines := hread.lines
  rw [h.max_eq] at hlines
  obtain ⟨hstream, hended, hgives⟩ := h
  unfold waiting
  obtain ⟨bytes, _ | _⟩ := st
  · exact nomatch he.symm.trans hended
  · rw [hended]
    exact ⟨⟨hstream, rfl, LineDecoder.GivesLast.trans hgives hread⟩, hlines⟩

/-- No whole line means that none waits, unless the stream has ended. -/
theorem waiting_of_next (h : l.Carries st ss) (he : l.ended = false)
    (hnone : l.buffer.next.1 = none) : l.waiting = [] := by
  obtain ⟨-, hwaiting⟩ := h.read (LineBuffer.next_gives h.valid)
  rw [hwaiting, hnone, Option.toList_none, List.nil_append, waiting, he]
  exact (LineBuffer.exhausted_next h.valid hnone).wholeLines_eq

theorem waiting_of_nextLast (h : l.Carries st ss) (he : l.ended = true)
    (hnone : l.buffer.nextLast.1 = none) : l.waiting = [] := by
  obtain ⟨-, hwaiting⟩ := h.readLast he (LineBuffer.nextLast_gives h.valid)
  rw [hwaiting, hnone, Option.toList_none, List.nil_append, waiting, he, ← h.max_eq]
  exact (LineDecoder.decodeLast_gives h.valid).2 hnone

end Carries

theorem found?_of_cons {s : String} {rest : List String} (h : l.waiting = s :: rest) :
    l.found? = some (.line s) := by
  rw [found?, h]

theorem found?_of_nil (h : l.waiting = []) :
    l.found? = if l.ended then some .hangUp else none := by
  rw [found?, h]

/-- What comes next is what is found, and the link goes on behind it. -/
theorem Carries.next? (h : l.Carries st ss) : l.next?.map Prod.fst = l.found? ∧
    ∀ i l', l.next? = some (i, l') → l'.Carries st (ss ++ i.line?.toList) := by
  unfold Link.next? nextOfStream?
  rw [if_pos h.stream]
  obtain ⟨hcarries, hwaiting⟩ := h.read (LineBuffer.next_gives h.valid)
  have hwhole (he : l.ended = false) := h.waiting_of_next he
  generalize l.buffer.next = found at hcarries hwaiting hwhole ⊢
  obtain ⟨_ | s, b⟩ := found
  case some =>
    rw [found?_of_cons hwaiting]
    exact ⟨rfl, by rintro _ _ ⟨⟩; exact hcarries⟩
  -- no line is whole
  rw [Option.toList_none, List.append_nil] at hcarries
  rw [Option.toList_none, List.nil_append] at hwaiting
  dsimp only
  cases he : l.ended with
  | false =>
    rw [found?_of_nil (hwhole he rfl), he]
    exact ⟨rfl, nofun⟩
  | true =>
    -- a last line may lack its line feed
    rw [if_pos rfl]
    obtain ⟨hcarries', hwaiting'⟩ := hcarries.readLast he (LineBuffer.nextLast_gives hcarries.valid)
    have hlast := hcarries.waiting_of_nextLast he
    rw [← hwaiting] at hwaiting' hlast
    dsimp only at hcarries' hwaiting' hlast
    generalize b.nextLast = found at hcarries' hwaiting' hlast ⊢
    obtain ⟨_ | s, b'⟩ := found
    · rw [found?_of_nil (hlast rfl), he]
      exact ⟨rfl, by rintro _ _ ⟨⟩; rw [← he]; exact hcarries'⟩
    · rw [found?_of_cons hwaiting']
      exact ⟨rfl, by rintro _ _ ⟨⟩; rw [← he]; exact hcarries'⟩

end Link
end AlarmKeypad.Device
