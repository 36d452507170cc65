import AlarmKeypad.Proofs.Framing.Chunks
import AlarmKeypad.Proofs.Framing.Encoding

namespace AlarmKeypad

namespace LineDecoder

open Text.Utf8

variable {max : Nat} {s : String} {ss : List String} {bs seg : List UInt8}

/-- Whether a text is one line of at most `max` bytes that is read as it was written. -/
def FitsLine (max : Nat) (s : String) : Prop :=
  '\n' ∉ s.toList ∧ s.toList.getLast? ≠ some '\r' ∧ s.utf8ByteSize ≤ max

instance (max : Nat) (s : String) : Decidable (FitsLine max s) :=
  inferInstanceAs (Decidable (_ ∧ _ ∧ _))

theorem eq_encodeString_of_textOf? (h : textOf? max seg = some s) :
    dropReturn seg = encodeString s := by
  obtain ⟨-, hs⟩ := Option.ite_none_right_eq_some.mp h
  rw [← decodeString?_eq_fromUTF8?] at hs
  obtain ⟨cs, hcs, rfl⟩ := Option.map_eq_some_iff.mp hs
  rw [encodeString, String.toList_ofList]
  exact decode?_eq_some_iff.mp hcs

theorem dropReturn_subset (seg : List UInt8) : dropReturn seg ⊆ seg := by
  unfold dropReturn
  split
  · exact List.dropLast_subset seg
  · exact List.Subset.refl seg

/-- A line has no line feed in it. -/
theorem not_mem_of_mem_wholeLines (h : s ∈ wholeLines max bs) : '\n' ∉ s.toList := by
  obtain ⟨seg, hseg, htext⟩ := List.mem_filterMap.mp h
  intro hmem
  apply (eq_terminated bs).2.1 seg hseg
  apply dropReturn_subset seg
  rw [eq_encodeString_of_textOf? htext]
  exact lineFeed_mem_encodeString.mpr hmem

/-- A segment gives the text back whose bytes it is, if that is short enough and keeps its end. -/
theorem textOf?_encodeString : textOf? max (encodeString s) = some s ↔
    s.toList.getLast? ≠ some '\r' ∧ s.utf8ByteSize ≤ max := by
  rw [Ne, ← getLast?_encodeString, ← Ne, ← dropReturn_eq_self_iff, ← length_encodeString]
  constructor
  · intro h
    obtain ⟨hle, -⟩ := Option.ite_none_right_eq_some.mp h
    exact ⟨eq_encodeString_of_textOf? h, hle⟩
  · rintro ⟨hdrop, hle⟩
    rw [textOf?, if_pos hle, hdrop, fromUTF8?_encodeString]

/-- Texts without a line feed are the segments of the stream they are written to. -/
theorem wholeLines_encodeLines (h : ∀ s ∈ ss, '\n' ∉ s.toList) :
    wholeLines max (ss.flatMap encodeLine) = ss.filterMap fun s => textOf? max (encodeString s) := by
  have hsegs : ∀ seg ∈ ss.map encodeString, lineFeed ∉ seg := by
    intro seg hseg
    obtain ⟨s, hs, rfl⟩ := List.mem_map.mp hseg
    exact lineFeed_mem_encodeString.not.mpr (h s hs)
  have hsent : ss.flatMap encodeLine = terminated (ss.map encodeString) ++ [] := by
    rw [List.append_nil, terminated, List.flatMap_map]
    rfl
  change (segments _).filterMap _ = _
  rw [hsent, segments_terminated hsegs, segments_of_not_mem List.not_mem_nil, List.append_nil,
    List.filterMap_map]
  rfl

theorem remainder_encodeLines (ss : List String) : remainder (ss.flatMap encodeLine) = [] := by
  induction ss with
  | nil => exact remainder_of_not_mem List.not_mem_nil
  | cons s ss ih =>
    rw [List.flatMap_cons, encodeLine, List.append_assoc, List.singleton_append,
      remainder_segment, ih]

/-- Where as many texts come back as there were, none has been lost. -/
theorem eq_some_of_filterMap_eq {α : Type} {f : α → Option α} {l : List α}
    (h : l.filterMap f = l) : ∀ a ∈ l, f a = some a := by
  induction l with
  | nil => exact fun a ha => nomatch ha
  | cons b l ih =>
    cases hb : f b with
    | none =>
      rw [List.filterMap_cons_none hb] at h
      have hle := List.length_filterMap_le f l
      rw [h, List.length_cons] at hle
      omega
    | some c =>
      rw [List.filterMap_cons_some hb] at h
      obtain ⟨rfl, hl⟩ := List.cons.inj h
      exact List.forall_mem_cons.mpr ⟨hb, ih hl⟩

/-- The lines of a stream are the texts that were written to it if each of them fits a line. -/
theorem wholeLines_encodeLines_eq_iff :
    wholeLines max (ss.flatMap encodeLine) = ss ↔ ∀ s ∈ ss, FitsLine max s := by
  constructor
  · intro h s hs
    have hfeed : ∀ s ∈ ss, '\n' ∉ s.toList := by
      intro s hs
      apply not_mem_of_mem_wholeLines
      rw [h]
      exact hs
    rw [wholeLines_encodeLines hfeed] at h
    exact ⟨hfeed s hs, textOf?_encodeString.mp (eq_some_of_filterMap_eq h s hs)⟩
  · intro h
    rw [wholeLines_encodeLines fun s hs => (h s hs).1]
    calc ss.filterMap (fun s => textOf? max (encodeString s))
        = ss.filterMap some :=
          List.filterMap_congr fun s hs => textOf?_encodeString.mpr (h s hs).2
      _ = ss := List.filterMap_some

end LineDecoder

namespace LineBuffer

open LineDecoder

/-- Texts are encoded and their bytes, cut in any way, fed to a decoder: its calls come to an end,
and however they go, they give the same texts if and only if each has no line feed in it, does not
end in a carriage return and is not too long. Nothing is left for the end of the stream. -/
theorem decoded_eq_iff (max : Nat) (ss : List String) (chunks : List (List UInt8))
    (h : chunks.flatten = ss.flatMap encodeLine) :
    (∃ out b last b', Feeds (new max) chunks out b ∧ Reads tryNextLast b last b') ∧
      ∀ out b, Feeds (new max) chunks out b →
        (out = ss ↔ ∀ s ∈ ss, FitsLine max s) ∧
        ∀ last b', Reads tryNextLast b last b' → last = [] := by
  constructor
  · obtain ⟨hvalid, -⟩ := feed_lines max chunks
    exact ⟨_, _, _, _, feeds_feed (valid_new max) chunks, reads_drainLast hvalid⟩
  · intro out b hfeeds
    obtain ⟨-, hwhole, hlines⟩ := hfeeds.lines
    rw [h] at hwhole hlines
    refine ⟨hwhole ▸ wholeLines_encodeLines_eq_iff, fun last b' hlast => ?_⟩
    -- the bytes end in a line feed, or there are none
    have hrest : lastLine? max (ss.flatMap encodeLine) = none := by
      rw [lastLine?, remainder_encodeLines, if_pos (.inl rfl)]
    have hall := hlines last b' hlast
    rw [LineDecoder.lines, hrest, Option.toList_none, hwhole] at hall
    exact List.append_cancel_left hall

/-- Two texts, cut inside a character: with room for three bytes both come over, and with room for
two the second is lost. -/
theorem decoded_cut :
    let ss := ["é", "abc"]
    let chunks := [[0xc3], [0xa9, 10, 97, 98], [99, 10]]
    chunks.flatten = ss.flatMap encodeLine ∧
      (∃ out b, Feeds (new 3) chunks out b ∧ out = ss) ∧
      ∀ out b, Feeds (new 2) chunks out b → out ≠ ss := by
  intro ss chunks
  have hsent : chunks.flatten = ss.flatMap encodeLine := by decide
  obtain ⟨⟨out, b, -, -, hfeeds, -⟩, hroom⟩ := decoded_eq_iff 3 ss chunks hsent
  obtain ⟨-, hshort⟩ := decoded_eq_iff 2 ss chunks hsent
  refine ⟨hsent, ⟨out, b, hfeeds, ((hroom out b hfeeds).1.mpr (by decide))⟩, ?_⟩
  intro out b hfeeds heq
  have hlong := (hshort out b hfeeds).1.mp heq "abc" (by decide)
  exact absurd hlong.2.2 (by decide)

end LineBuffer
end AlarmKeypad
