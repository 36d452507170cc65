import AlarmKeypad.Proofs.Framing.RoundTrip

namespace AlarmKeypad

namespace LineDecoder

open Text.Utf8

variable {max : Nat} {s : String} {ss : List String} {segs : List (List UInt8)}

def encodeReturnLine (s : String) : List UInt8 := encodeString s ++ [carriageReturn, lineFeed]

/-- Segments that a line feed ends are lines one by one, and nothing is left behind them. -/
theorem lines_terminated (h : ∀ seg ∈ segs, lineFeed ∉ seg) :
    lines max (terminated segs) = segs.filterMap (textOf? max) := by
  have hsplit := segments_terminated h []
  have hrest := remainder_terminated segs []
  rw [List.append_nil] at hsplit hrest
  have hlast : lastLine? max (terminated segs) = none := by
    rw [lastLine?, hrest, remainder_of_not_mem List.not_mem_nil, if_pos (.inl rfl)]
  rw [lines, hlast, Option.toList_none, List.append_nil]
  change (segments _).filterMap _ = _
  rw [hsplit, segments_of_not_mem List.not_mem_nil, List.append_nil]

theorem textOf?_encodeString_of_clean (h : '\r' ∉ s.toList) :
    textOf? max (encodeString s) = if s.utf8ByteSize ≤ max then some s else none := by
  have hlast : s.toList.getLast? ≠ some '\r' := fun hlast => h (List.mem_of_getLast? hlast)
  rw [textOf?, length_encodeString, dropReturn_eq_self_iff.mpr (getLast?_encodeString.not.mpr hlast),
    fromUTF8?_encodeString]

/-- With line feeds alone the lines of at most `max` bytes come over. -/
theorem lines_feeds (h : ∀ s ∈ ss, '\r' ∉ s.toList ∧ '\n' ∉ s.toList) :
    lines max (ss.flatMap encodeLine) = ss.filter (·.utf8ByteSize ≤ max) := by
  have hsent : ss.flatMap encodeLine = terminated (ss.map encodeString) := by
    rw [terminated, List.flatMap_map]
    rfl
  have hsegs : ∀ seg ∈ ss.map encodeString, lineFeed ∉ seg :=
    List.forall_mem_map.mpr fun s hs => lineFeed_mem_encodeString.not.mpr (h s hs).2
  rw [hsent, lines_terminated hsegs, List.filterMap_map, ← List.filterMap_eq_filter]
  refine List.filterMap_congr fun s hs => ?_
  rw [Function.comp_apply, textOf?_encodeString_of_clean (h s hs).1]
  simp [Option.guard]

/-- With carriage returns a byte of each segment goes on them. -/
theorem lines_returns (h : ∀ s ∈ ss, '\r' ∉ s.toList ∧ '\n' ∉ s.toList) :
    lines max (ss.flatMap encodeReturnLine) = ss.filter (·.utf8ByteSize < max) := by
  have hsent : ss.flatMap encodeReturnLine =
      terminated (ss.map fun s => encodeString s ++ [carriageReturn]) := by
    rw [terminated, List.flatMap_map]
    refine List.flatMap_congr fun s _ => ?_
    rw [encodeReturnLine, List.append_assoc]
    rfl
  have hsegs : ∀ seg ∈ ss.map fun s => encodeString s ++ [carriageReturn], lineFeed ∉ seg :=
    List.forall_mem_map.mpr fun s hs hmem => by
      rcases List.mem_append.mp hmem with hmem | hmem
      · exact (h s hs).2 (lineFeed_mem_encodeString.mp hmem)
      · exact absurd (List.mem_singleton.mp hmem) (by decide)
  rw [hsent, lines_terminated hsegs, List.filterMap_map, ← List.filterMap_eq_filter]
  refine List.filterMap_congr fun s _ => ?_
  rw [Function.comp_apply, textOf?_return]
  simp [Option.guard]

/-- The two differ in the lines of just the greatest length. -/
theorem filter_le_eq_filter_lt_iff :
    ss.filter (·.utf8ByteSize ≤ max) = ss.filter (·.utf8ByteSize < max) ↔
      ∀ s ∈ ss, s.utf8ByteSize ≠ max := by
  constructor
  · intro h s hs heq
    have hmem : s ∈ ss.filter (·.utf8ByteSize ≤ max) :=
      List.mem_filter.mpr ⟨hs, decide_eq_true (Nat.le_of_eq heq)⟩
    rw [h] at hmem
    exact Nat.ne_of_lt (of_decide_eq_true (List.mem_filter.mp hmem).2) heq
  · intro h
    refine List.filter_congr fun s hs => decide_eq_decide.mpr ?_
    have := h s hs
    omega

end LineDecoder

namespace LineBuffer

open LineDecoder

variable {max : Nat} {chunks : List (List UInt8)} {out : List String}

/-- What a decoder gives of a stream in chunks, up to its end. -/
def Decodes (max : Nat) (chunks : List (List UInt8)) (out : List String) : Prop :=
  ∃ whole b last b', Feeds (new max) chunks whole b ∧ Reads tryNextLast b last b' ∧
    out = whole ++ last

theorem decodes_iff : Decodes max chunks out ↔ out = LineDecoder.lines max chunks.flatten := by
  constructor
  · rintro ⟨whole, b, last, b', hfeeds, hlast, rfl⟩
    exact hfeeds.lines.2.2 last b' hlast
  · rintro rfl
    obtain ⟨hvalid, -, hlines⟩ := feed_lines max chunks
    exact ⟨_, _, _, _, feeds_feed (valid_new max) chunks, reads_drainLast hvalid, hlines.symm⟩

/-- Whether the texts come over alike with either end of a line, however the streams are cut. -/
def TerminatorsAgree (max : Nat) (ss : List String) : Prop :=
  ∀ chunks chunks' out out', chunks.flatten = ss.flatMap encodeLine →
    chunks'.flatten = ss.flatMap encodeReturnLine → Decodes max chunks out →
      Decodes max chunks' out' → out = out'

/-- Of texts without line ends, those of at most `max` bytes come over with line feeds alone, and
those of less with a carriage return before each. So the two agree if and only if no text has
exactly `max` bytes. -/
theorem terminatorsAgree_iff (max : Nat) (ss : List String)
    (h : ∀ s ∈ ss, '\r' ∉ s.toList ∧ '\n' ∉ s.toList) :
    (∀ chunks out, chunks.flatten = ss.flatMap encodeLine →
      (Decodes max chunks out ↔ out = ss.filter (·.utf8ByteSize ≤ max))) ∧
    (∀ chunks out, chunks.flatten = ss.flatMap encodeReturnLine →
      (Decodes max chunks out ↔ out = ss.filter (·.utf8ByteSize < max))) ∧
    (TerminatorsAgree max ss ↔ ∀ s ∈ ss, s.utf8ByteSize ≠ max) := by
  have hfeeds : ∀ chunks out, chunks.flatten = ss.flatMap encodeLine →
      (Decodes max chunks out ↔ out = ss.filter (·.utf8ByteSize ≤ max)) := fun chunks out hsent => by
    rw [decodes_iff, hsent, lines_feeds h]
  have hreturns : ∀ chunks out, chunks.flatten = ss.flatMap encodeReturnLine →
      (Decodes max chunks out ↔ out = ss.filter (·.utf8ByteSize < max)) := fun chunks out hsent => by
    rw [decodes_iff, hsent, lines_returns h]
  refine ⟨hfeeds, hreturns, ?_⟩
  rw [← filter_le_eq_filter_lt_iff]
  constructor
  · -- each stream may come in one piece
    intro hagree
    exact hagree [_] [_] _ _ List.flatten_singleton List.flatten_singleton
      ((hfeeds _ _ List.flatten_singleton).mpr rfl) ((hreturns _ _ List.flatten_singleton).mpr rfl)
  · intro heq chunks chunks' out out' hsent hsent' hout hout'
    rw [(hfeeds chunks out hsent).mp hout, (hreturns chunks' out' hsent').mp hout', heq]

/-- Two lines, cut before the line feed: with room for three bytes the longer comes over only without
a carriage return, with room for four they come over with either end. -/
theorem terminatorsAgree_two :
    let ss := ["ab", "abc"]
    (∀ s ∈ ss, '\r' ∉ s.toList ∧ '\n' ∉ s.toList) ∧
      Decodes 3 [[97, 98], [10, 97, 98, 99], [10]] ["ab", "abc"] ∧
      Decodes 3 [[97, 98, 13], [10, 97, 98, 99, 13], [10]] ["ab"] ∧
      TerminatorsAgree 4 ss := by
  intro ss
  have hclean : ∀ s ∈ ss, '\r' ∉ s.toList ∧ '\n' ∉ s.toList := by decide
  obtain ⟨hfeeds, hreturns, -⟩ := terminatorsAgree_iff 3 ss hclean
  exact ⟨hclean, (hfeeds _ _ (by decide)).mpr (by decide), (hreturns _ _ (by decide)).mpr (by decide),
    (terminatorsAgree_iff 4 ss hclean).2.2.mpr (by decide)⟩

/-- A line of just the greatest length is lost with a carriage return behind it. -/
theorem not_terminatorsAgree : (∀ s ∈ ["abc"], '\r' ∉ s.toList ∧ '\n' ∉ s.toList) ∧
    Decodes 3 [[97, 98, 99, 10]] ["abc"] ∧ Decodes 3 [[97, 98, 99, 13, 10]] [] ∧
    ¬TerminatorsAgree 3 ["abc"] := by
  have hclean : ∀ s ∈ ["abc"], '\r' ∉ s.toList ∧ '\n' ∉ s.toList := by decide
  have hfeed : [[97, 98, 99, 10]].flatten = ["abc"].flatMap encodeLine := by decide
  have hreturn : [[97, 98, 99, 13, 10]].flatten = ["abc"].flatMap encodeReturnLine := by decide
  have hkept : Decodes 3 [[97, 98, 99, 10]] ["abc"] := by
    rw [decodes_iff, hfeed, lines_feeds hclean]
    decide
  have hlost : Decodes 3 [[97, 98, 99, 13, 10]] [] := by
    rw [decodes_iff, hreturn, lines_returns hclean]
    decide
  exact ⟨hclean, hkept, hlost,
    fun hagree => absurd (hagree _ _ _ _ hfeed hreturn hkept hlost) (by decide)⟩

end LineBuffer
end AlarmKeypad
