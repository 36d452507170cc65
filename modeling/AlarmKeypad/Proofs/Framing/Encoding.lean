import AlarmKeypad.Proofs.Framing.Keeping

namespace AlarmKeypad

namespace Text.Utf8

theorem le_of_mem_continuation {k n : Nat} {b : UInt8} (h : b ∈ continuation k n) :
    0x80 ≤ b.toNat := by
  induction k with
  | zero => exact nomatch h
  | succ k ih =>
    rcases List.mem_cons.mp h with rfl | h
    · rw [toNat_toUInt8 (by omega)]
      omega
    · exact ih h

/-- A character that is not ASCII has no ASCII byte. -/
theorem le_of_mem_encodeChar {c : Char} {b : UInt8} (hc : 0x80 ≤ c.toNat)
    (hb : b ∈ encodeChar c) : 0x80 ≤ b.toNat := by
  obtain ⟨j, x, y, hleads, henc, -⟩ := exists_leads c hc
  unfold Leads at hleads
  rw [henc] at hb
  rcases List.mem_cons.mp hb with rfl | hb
  · omega
  · rcases List.mem_cons.mp hb with rfl | hb
    · omega
    · exact le_of_mem_continuation hb

theorem encode_append (cs ds : List Char) : encode (cs ++ ds) = encode cs ++ encode ds :=
  List.flatMap_append

theorem encodeString_append (s t : String) :
    encodeString (s ++ t) = encodeString s ++ encodeString t := by
  rw [encodeString, String.toList_append, encode_append]
  rfl

theorem length_encodeString (s : String) : (encodeString s).length = s.utf8ByteSize := by
  have h := congrArg ByteArray.size (toByteArray_encode s.toList)
  rw [← String.toByteArray_ofList, String.ofList_toList] at h
  exact List.size_toByteArray.symm.trans h

theorem fromUTF8?_encodeString (s : String) :
    String.fromUTF8? (encodeString s).toByteArray = some s := by
  rw [← decodeString?_eq_fromUTF8?, decodeString?_eq_some_iff, encodeString, toByteArray_encode,
    ← String.toByteArray_ofList, String.ofList_toList]

section
variable {a : Char} (ha : a.toNat < 0x80)
include ha

theorem mem_encodeChar_iff {c : Char} : a.toNat.toUInt8 ∈ encodeChar c ↔ a = c := by
  have hbyte : a.toNat.toUInt8.toNat = a.toNat := toNat_toUInt8 (by omega)
  by_cases hc : c.toNat < 0x80
  · have hbyte' : c.toNat.toUInt8.toNat = c.toNat := toNat_toUInt8 (by omega)
    rw [encodeChar_one hc, List.mem_singleton, ← UInt8.toNat_inj, hbyte, hbyte', Char.toNat_inj]
  · refine iff_of_false (fun hmem => ?_) fun heq => hc (heq ▸ ha)
    have hle := le_of_mem_encodeChar (by omega) hmem
    omega

theorem mem_encode_iff {cs : List Char} : a.toNat.toUInt8 ∈ encode cs ↔ a ∈ cs := by
  simp only [encode, List.mem_flatMap, mem_encodeChar_iff ha, exists_eq_right']

/-- An ASCII byte is the last one if its character is the last. -/
theorem getLast?_encode_iff {cs : List Char} :
    (encode cs).getLast? = some a.toNat.toUInt8 ↔ cs.getLast? = some a := by
  rcases List.eq_nil_or_concat cs with rfl | ⟨ds, c, rfl⟩
  · simp [encode]
  have hlast : (encode (ds ++ [c])).getLast? = (encodeChar c).getLast? := by
    rw [encode_append, encode, encode, List.flatMap_singleton,
      List.getLast?_append_of_ne_nil _ (encodeChar_ne_nil c)]
  rw [List.concat_eq_append, hlast, List.getLast?_concat, Option.some_inj]
  constructor
  · intro h
    exact ((mem_encodeChar_iff ha).mp (List.mem_of_getLast? h)).symm
  · rintro rfl
    rw [encodeChar_one ha]
    rfl

end
end Text.Utf8

namespace LineDecoder

open Text.Utf8

variable {max : Nat} {s : String}

theorem lineFeed_mem_encodeString : lineFeed ∈ encodeString s ↔ '\n' ∈ s.toList :=
  mem_encode_iff (a := '\n') (by decide)

theorem getLast?_encodeString :
    (encodeString s).getLast? = some carriageReturn ↔ s.toList.getLast? = some '\r' :=
  getLast?_encode_iff (a := '\r') (by decide)

theorem dropReturn_concat (bs : List UInt8) : dropReturn (bs ++ [carriageReturn]) = bs := by
  rw [dropReturn, List.getLast?_concat, if_pos rfl, List.dropLast_concat]

theorem dropReturn_eq_self_iff {bs : List UInt8} :
    dropReturn bs = bs ↔ bs.getLast? ≠ some carriageReturn := by
  constructor
  · rintro h hlast
    obtain ⟨ds, rfl⟩ := List.getLast?_eq_some_iff.mp hlast
    rw [dropReturn_concat] at h
    exact absurd h.symm (by simp)
  · exact fun h => if_neg h

/-- A text with a carriage return behind it is a line if both are short enough. -/
theorem textOf?_return (s : String) : textOf? max (encodeString s ++ [carriageReturn]) =
    if s.utf8ByteSize < max then some s else none := by
  rw [textOf?, List.length_append, length_encodeString, dropReturn_concat, fromUTF8?_encodeString]
  rfl

/-- The lines that a peer reads from a stream: what a line feed ends, without one carriage return at
the end. -/
def readLines (bs : List UInt8) : List (List UInt8) := (segments bs).map dropReturn

/-- What is read from a text and its line feed does not depend on what follows. -/
theorem readLines_encodeLine (s : String) (rest : List UInt8) :
    readLines (encodeLine s ++ rest) = readLines (encodeLine s) ++ readLines rest := by
  have hrem : remainder (encodeLine s) = [] :=
    remainder_segment.trans (remainder_of_not_mem List.not_mem_nil)
  rw [readLines, segments_append, hrem, List.map_append]
  rfl

theorem readLines_encodeLines (ss : List String) (rest : List UInt8) :
    readLines (ss.flatMap encodeLine ++ rest) =
      ss.flatMap (fun s => readLines (encodeLine s)) ++ readLines rest := by
  induction ss with
  | nil => rfl
  | cons s ss ih =>
    rw [List.flatMap_cons, List.append_assoc, readLines_encodeLine, ih, List.flatMap_cons,
      List.append_assoc]

/-- A text is one line to a peer, and unchanged, if no line feed is in it and no carriage return at
its end. -/
theorem readLines_eq_singleton_iff : readLines (encodeLine s) = [encodeString s] ↔
    '\n' ∉ s.toList ∧ s.toList.getLast? ≠ some '\r' := by
  rw [← lineFeed_mem_encodeString, Ne, ← getLast?_encodeString, ← Ne, ← dropReturn_eq_self_iff]
  by_cases hfeed : lineFeed ∈ encodeString s
  · -- the first line feed ends a line before the end of the text, and the last one another
    refine iff_of_false (fun hone => ?_) fun h => h.1 hfeed
    obtain ⟨seg, rest, hsplit, hseg⟩ := List.eq_append_cons_of_mem hfeed
    have hlen := congrArg List.length hone
    rw [encodeLine, hsplit, List.append_assoc, List.cons_append, readLines, segments,
      List.splitOn_append_cons_self_of_not_mem hseg, List.splitOn_append_cons_self] at hlen
    simp only [List.splitOn_nil, List.length_map, List.length_dropLast, List.length_cons,
      List.length_append, List.length_nil] at hlen
    have hpos := List.length_pos_iff.mpr (List.splitOn_ne_nil lineFeed rest)
    omega
  · have hone : segments (encodeLine s) = [encodeString s] := by
      rw [encodeLine, segments, List.splitOn_append_cons_self_of_not_mem hfeed]
      rfl
    rw [readLines, hone, List.map_singleton, List.singleton_inj]
    exact (and_iff_right hfeed).symm

end LineDecoder
end AlarmKeypad
