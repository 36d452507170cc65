import AlarmKeypad.Proofs.Framing.Decoder

namespace AlarmKeypad.LineBuffer

open LineDecoder

/-- Lines are read one after the other until there is none. -/
inductive Reads (read : LineBuffer → Except TransportFault (Option String) × LineBuffer) :
    LineBuffer → List String → LineBuffer → Prop
  | stop {b b'} (h : read b = (.ok none, b')) : Reads read b [] b'
  | more {b b' b'' s ss} (h : read b = (.ok (some s), b')) (rest : Reads read b' ss b'') :
      Reads read b (s :: ss) b''

/-- Chunks arrive one after the other, and after each of them lines are read until there is
none. -/
inductive Feeds : LineBuffer → List (List UInt8) → List String → LineBuffer → Prop
  | stop {b} : Feeds b [] [] b
  | more {b b' b'' chunk chunks ss ss'} (h : Reads tryNext (b.append chunk) ss b')
      (rest : Feeds b' chunks ss' b'') : Feeds b (chunk :: chunks) (ss ++ ss') b''

def feed (b : LineBuffer) : List (List UInt8) → List String × LineBuffer
  | [] => ([], b)
  | chunk :: chunks =>
    let (ss, b) := (b.append chunk).drain
    let (ss', b) := b.feed chunks
    (ss ++ ss', b)

def Valid (b : LineBuffer) : Prop := b.decoder.Valid b.bytes

def Exhausted (b : LineBuffer) : Prop := b.decoder.Exhausted b.bytes

def Gives (b : LineBuffer) (ss : List String) (b' : LineBuffer) : Prop :=
  b.decoder.Gives b.bytes ss b'.decoder b'.bytes

def GivesLast (b : LineBuffer) (ss : List String) (b' : LineBuffer) : Prop :=
  b.decoder.GivesLast b.bytes ss b'.decoder b'.bytes

variable {b b' : LineBuffer} {ss : List String}

theorem valid_new (max : Nat) : (new max).Valid := valid_zero

theorem exhausted_new (max : Nat) : (new max).Exhausted :=
  ⟨by simp [new], Nat.zero_le _, fun _ => rfl⟩

theorem tryNext_eq (b : LineBuffer) : b.tryNext = (.ok b.next.1, b.next.2) := by
  rw [tryNext, retry_look]
  rfl

theorem tryNextLast_eq (b : LineBuffer) : b.tryNextLast = (.ok b.nextLast.1, b.nextLast.2) := by
  rw [tryNextLast, retry_lookLast]
  rfl

theorem next_gives (h : b.Valid) : b.Gives b.next.1.toList b.next.2 := (decode_gives h).1

theorem exhausted_next (h : b.Valid) (hn : b.next.1 = none) : b.next.2.Exhausted :=
  (decode_gives h).2 hn

theorem nextLast_gives (h : b.Valid) : b.GivesLast b.nextLast.1.toList b.nextLast.2 :=
  (decodeLast_gives h).1

/-- Reading all lines comes to an end, because each takes a byte. -/
theorem reads_readAll {tryRead : LineBuffer → Except TransportFault (Option String) × LineBuffer}
    {read : LineBuffer → Option String × LineBuffer}
    (heq : ∀ b, tryRead b = (.ok (read b).1, (read b).2))
    (hvalid : ∀ {b}, b.Valid → (read b).2.Valid)
    (hlength : ∀ {b}, b.Valid →
      (read b).2.bytes.length + (read b).1.toList.length ≤ b.bytes.length)
    {fuel : Nat} (h : b.Valid) (hfuel : b.bytes.length < fuel) :
    Reads tryRead b (readAll read fuel b).1 (readAll read fuel b).2 := by
  induction fuel generalizing b with
  | zero => exact absurd hfuel (Nat.not_lt_zero _)
  | succ fuel ih =>
    rcases hread : read b with ⟨_ | s, b'⟩
    · simp only [readAll, hread]
      exact .stop (by rw [heq, hread])
    · have hlen := hlength h
      have hv := hvalid h
      rw [hread] at hlen hv
      simp only [readAll, hread]
      exact .more (by rw [heq, hread]) (ih hv (by simp at hlen; omega))

theorem reads_drain (h : b.Valid) : Reads tryNext b b.drain.1 b.drain.2 :=
  reads_readAll tryNext_eq (fun hv => (next_gives hv).valid) (fun hv => (next_gives hv).length_le) h
    (Nat.lt_succ_self _)

theorem reads_drainLast (h : b.Valid) : Reads tryNextLast b b.drainLast.1 b.drainLast.2 :=
  reads_readAll tryNextLast_eq (fun hv => (nextLast_gives hv).valid)
    (fun hv => (nextLast_gives hv).length_le) h (Nat.lt_succ_self _)

theorem Reads.gives (hr : Reads tryNext b ss b') (h : b.Valid) : b.Gives ss b' ∧ b'.Exhausted := by
  induction hr with
  | @stop b b' hnext =>
    obtain ⟨hfound, hrest⟩ := Prod.mk.inj (hnext.symm.trans (tryNext_eq b))
    have hnone : b.next.1 = none := (Except.ok.inj hfound).symm
    have hgives := next_gives h
    rw [hnone] at hgives
    exact hrest ▸ ⟨hgives, exhausted_next h hnone⟩
  | @more b b' b'' s ss hnext hrest ih =>
    obtain ⟨hfound, hrest⟩ := Prod.mk.inj (hnext.symm.trans (tryNext_eq b))
    have hgives := next_gives h
    rw [← Except.ok.inj hfound, ← hrest] at hgives
    obtain ⟨hmore, hex⟩ := ih hgives.valid
    exact ⟨hgives.trans hmore, hex⟩

theorem Reads.lines (hr : Reads tryNextLast b ss b') (h : b.Valid) :
    ss = LineDecoder.lines b.decoder.max (b.decoder.ahead b.bytes) := by
  induction hr with
  | @stop b b' hnext =>
    obtain ⟨hfound, -⟩ := Prod.mk.inj (hnext.symm.trans (tryNextLast_eq b))
    have hnone : b.nextLast.1 = none := (Except.ok.inj hfound).symm
    have hgives := nextLast_gives h
    rw [hgives.lines, hnone]
    exact ((decodeLast_gives h).2 hnone).symm
  | @more b b' b'' s ss hnext hrest ih =>
    obtain ⟨hfound, hrest⟩ := Prod.mk.inj (hnext.symm.trans (tryNextLast_eq b))
    have hgives := nextLast_gives h
    rw [← Except.ok.inj hfound, ← hrest] at hgives
    rw [hgives.lines, ih hgives.valid, hgives.max_eq]
    rfl

theorem feeds_feed (h : b.Valid) (chunks : List (List UInt8)) :
    Feeds b chunks (b.feed chunks).1 (b.feed chunks).2 := by
  induction chunks generalizing b with
  | nil => exact .stop
  | cons chunk chunks ih =>
    have hreads := reads_drain (b := b.append chunk) (Valid.append h chunk)
    exact .more hreads (ih (hreads.gives (Valid.append h chunk)).1.valid)

theorem Feeds.gives {chunks : List (List UInt8)} (hf : Feeds b chunks ss b') (h : b.Valid)
    (hex : b.Exhausted) :
    b.decoder.Gives (b.bytes ++ chunks.flatten) ss b'.decoder b'.bytes ∧ b'.Exhausted := by
  induction hf with
  | @stop b =>
    rw [List.flatten_nil, List.append_nil]
    exact ⟨.refl h, hex⟩
  | @more b b' b'' chunk chunks ss ss' hread hrest ih =>
    obtain ⟨hgives, hex'⟩ := hread.gives (Valid.append h chunk)
    obtain ⟨hmore, hex''⟩ := ih hgives.valid hex'
    have hfirst := hgives.append chunks.flatten
    rw [append, List.append_assoc, ← List.flatten_cons] at hfirst
    exact ⟨hfirst.trans hmore, hex''⟩

/-- However the calls go, they give the whole lines, and those at the end of the stream the last. -/
theorem Feeds.lines {max : Nat} {chunks : List (List UInt8)} (hf : Feeds (new max) chunks ss b) :
    b.Valid ∧ ss = wholeLines max chunks.flatten ∧ ∀ last b', Reads tryNextLast b last b' →
      ss ++ last = LineDecoder.lines max chunks.flatten := by
  obtain ⟨hgives, hex⟩ := hf.gives (valid_new max) (exhausted_new max)
  have hmax : b.decoder.max = max := hgives.max_eq
  refine ⟨hgives.valid, ?_, fun last b' hlast => ?_⟩
  · have hwhole := hgives.whole []
    rw [List.append_nil, List.append_nil, hex.wholeLines_eq, List.append_nil] at hwhole
    exact hwhole.symm
  · have hlines : LineDecoder.lines max chunks.flatten = _ := hgives.givesLast.lines
    rw [hlines, hlast.lines hgives.valid, hmax]
    rfl

/-- What is fed gives the whole lines, and what is left the last one. -/
theorem feed_lines (max : Nat) (chunks : List (List UInt8)) :
    ((new max).feed chunks).2.Valid ∧
      ((new max).feed chunks).1 = wholeLines max chunks.flatten ∧
      ((new max).feed chunks).1 ++ ((new max).feed chunks).2.drainLast.1 =
        LineDecoder.lines max chunks.flatten := by
  obtain ⟨hvalid, hwhole, hlines⟩ := (feeds_feed (valid_new max) chunks).lines
  exact ⟨hvalid, hwhole, hlines _ _ (reads_drainLast hvalid)⟩

/-- A stream gives its lines however it is cut into chunks: those that are whole as soon as their
chunks have come, and the last at the end of the stream. After every chunk and at the end the calls
come to one that finds nothing, and no call fails. A segment that is too long or not UTF-8 makes no
difference to any other. -/
theorem framing (max : Nat) (chunks : List (List UInt8)) :
    (∀ b : LineBuffer, (∃ r, b.tryNext.1 = .ok r) ∧ ∃ r, b.tryNextLast.1 = .ok r) ∧
      (∀ before seg after, lineFeed ∉ seg → textOf? max seg = none →
        LineDecoder.lines max (before ++ lineFeed :: (seg ++ lineFeed :: after)) =
          LineDecoder.lines max (before ++ lineFeed :: after)) ∧
      let fed := (new max).feed chunks
      let last := fed.2.drainLast
      Feeds (new max) chunks fed.1 fed.2 ∧ Reads tryNextLast fed.2 last.1 last.2 ∧
        fed.1 = wholeLines max chunks.flatten ∧
        fed.1 ++ last.1 = LineDecoder.lines max chunks.flatten := by
  refine ⟨fun b => ⟨⟨b.next.1, ?_⟩, b.nextLast.1, ?_⟩,
    fun _ _ _ hseg hnone => lines_segment_of_none hseg hnone, ?_⟩
  · rw [tryNext_eq]
  · rw [tryNextLast_eq]
  obtain ⟨hvalid, hwhole, hlines⟩ := feed_lines max chunks
  exact ⟨feeds_feed (valid_new max) chunks, reads_drainLast hvalid, hwhole, hlines⟩

end AlarmKeypad.LineBuffer
