import AlarmKeypad.Proofs.Framing.Lines

namespace AlarmKeypad.LineDecoder

def terminated (segs : List (List UInt8)) : List UInt8 := segs.flatMap (· ++ [lineFeed])

/-- The segments of a stream that a line feed ends. -/
def segments (bs : List UInt8) : List (List UInt8) := (bs.splitOn lineFeed).dropLast

section
variable {max : Nat} {segs : List (List UInt8)} {bs rest : List UInt8}

theorem terminated_cons (seg : List UInt8) (segs : List (List UInt8)) (rest : List UInt8) :
    terminated (seg :: segs) ++ rest = seg ++ lineFeed :: (terminated segs ++ rest) := by
  simp [terminated]

theorem splitOn_terminated (h : ∀ seg ∈ segs, lineFeed ∉ seg) (rest : List UInt8) :
    (terminated segs ++ rest).splitOn lineFeed = segs ++ rest.splitOn lineFeed := by
  induction segs with
  | nil => rfl
  | cons seg segs ih =>
    obtain ⟨hseg, hsegs⟩ := List.forall_mem_cons.mp h
    rw [terminated_cons, List.splitOn_append_cons_self_of_not_mem hseg, ih hsegs, List.cons_append]

theorem segments_terminated (h : ∀ seg ∈ segs, lineFeed ∉ seg) (rest : List UInt8) :
    segments (terminated segs ++ rest) = segs ++ segments rest := by
  rw [segments, splitOn_terminated h, segments,
    List.dropLast_append_of_ne_nil (List.splitOn_ne_nil lineFeed rest)]

theorem remainder_terminated (segs : List (List UInt8)) (rest : List UInt8) :
    remainder (terminated segs ++ rest) = remainder rest := by
  induction segs with
  | nil => rfl
  | cons seg segs ih => rw [terminated_cons, remainder_segment, ih]

/-- Every stream is segments and a remainder, and both can be read off it. -/
theorem eq_terminated (bs : List UInt8) : bs = terminated (segments bs) ++ remainder bs ∧
    (∀ seg ∈ segments bs, lineFeed ∉ seg) ∧ lineFeed ∉ remainder bs := by
  by_cases hmem : lineFeed ∈ bs
  · obtain ⟨seg, rest, hbs, hseg⟩ := List.eq_append_cons_of_mem hmem
    have hlen : rest.length < bs.length := by
      rw [hbs, List.length_append, List.length_cons]
      omega
    obtain ⟨hrest, hsegs, hrem⟩ := eq_terminated rest
    have hsplit : segments bs = seg :: segments rest := by
      rw [hbs, segments, List.splitOn_append_cons_self_of_not_mem hseg,
        List.dropLast_cons_of_ne_nil (List.splitOn_ne_nil lineFeed rest)]
      rfl
    rw [hsplit, hbs, remainder_segment, terminated_cons, ← hrest]
    exact ⟨rfl, List.forall_mem_cons.mpr ⟨hseg, hsegs⟩, hrem⟩
  · have hsplit : segments bs = [] := by
      rw [segments, List.splitOn_eq_singleton hmem]
      rfl
    rw [hsplit, remainder_of_not_mem hmem]
    exact ⟨rfl, by simp, hmem⟩
termination_by bs.length

/-- What comes later ends the remainder and goes on behind it. -/
theorem segments_append (bs more : List UInt8) :
    segments (bs ++ more) = segments bs ++ segments (remainder bs ++ more) := by
  obtain ⟨hbs, hsegs, -⟩ := eq_terminated bs
  conv => lhs; rw [hbs, List.append_assoc, segments_terminated hsegs]

theorem wholeLines_isPrefix {bs cs : List UInt8} (h : bs <+: cs) :
    wholeLines max bs <+: wholeLines max cs := by
  obtain ⟨more, rfl⟩ := h
  change (segments bs).filterMap _ <+: (segments (bs ++ more)).filterMap _
  rw [segments_append, List.filterMap_append]
  exact List.prefix_append ..

end

section
variable (max : Nat) (wanted : String → Bool)

/-- Whether a segment is a line that is wanted. -/
def carries (seg : List UInt8) : Bool := (textOf? max seg).any wanted

/-- The wanted segments that a line feed ends. -/
def keepWhole (bs : List UInt8) : List UInt8 :=
  terminated ((segments bs).filter (carries max wanted))

/-- What the end of the stream ends, if it is wanted. -/
def keepLast (bs : List UInt8) : List UInt8 :=
  if carries max wanted (remainder bs) then remainder bs else []

end

section
variable {max : Nat} {wanted : String → Bool} {bs : List UInt8}

theorem segments_of_not_mem (h : lineFeed ∉ bs) : segments bs = [] := by
  rw [segments, List.splitOn_eq_singleton h]
  rfl

theorem filterMap_carries (segs : List (List UInt8)) :
    (segs.filter (carries max wanted)).filterMap (textOf? max) =
      (segs.filterMap (textOf? max)).filter wanted := by
  induction segs with
  | nil => rfl
  | cons seg segs ih =>
    cases htext : textOf? max seg with
    | none => simp [carries, htext, ih]
    | some s => cases hs : wanted s <;> simp [carries, htext, hs, ih]

/-- The stream keeps its wanted lines. -/
theorem segments_keep (bs rest : List UInt8) (hrest : lineFeed ∉ rest) :
    segments (keepWhole max wanted bs ++ rest) = (segments bs).filter (carries max wanted) := by
  have hsegs := (eq_terminated bs).2.1
  rw [keepWhole, segments_terminated fun seg hseg => hsegs seg (List.mem_of_mem_filter hseg),
    segments_of_not_mem hrest, List.append_nil]

theorem lineFeed_not_mem_keepLast : lineFeed ∉ keepLast max wanted bs := by
  unfold keepLast
  split
  · exact (eq_terminated bs).2.2
  · simp

theorem wholeLines_keep {rest : List UInt8} (hrest : lineFeed ∉ rest) :
    wholeLines max (keepWhole max wanted bs ++ rest) = (wholeLines max bs).filter wanted := by
  change (segments _).filterMap _ = ((segments bs).filterMap _).filter wanted
  rw [segments_keep bs rest hrest, filterMap_carries]

theorem remainder_keep {rest : List UInt8} (hrest : lineFeed ∉ rest) :
    remainder (keepWhole max wanted bs ++ rest) = rest := by
  rw [keepWhole, remainder_terminated, remainder_of_not_mem hrest]

theorem carries_blank (hempty : wanted "" = false) {seg : List UInt8}
    (h : seg = [] ∨ seg = [carriageReturn]) : carries max wanted seg = false := by
  have hdrop : dropReturn seg = [] := by rcases h with rfl | rfl <;> rfl
  have htext : String.fromUTF8? [].toByteArray = some "" :=
    (Text.Utf8.decodeString?_eq_fromUTF8? []).symm.trans
      (Text.Utf8.decodeString?_eq_some_iff.mpr rfl)
  unfold carries textOf?
  rw [hdrop, htext]
  split
  · exact hempty
  · rfl

theorem lastLine?_keep (hempty : wanted "" = false) :
    lastLine? max (keepWhole max wanted bs ++ keepLast max wanted bs) =
      (lastLine? max bs).filter wanted := by
  unfold lastLine?
  rw [remainder_keep lineFeed_not_mem_keepLast, keepLast]
  by_cases hblank : remainder bs = [] ∨ remainder bs = [carriageReturn]
  · rw [carries_blank hempty hblank, if_pos hblank]
    rfl
  · rw [if_neg hblank]
    cases hcarries : carries max wanted (remainder bs) with
    | true =>
      obtain ⟨s, hs, hwanted⟩ := (Option.any_eq_true ..).mp hcarries
      rw [if_pos rfl, if_neg hblank, hs, Option.filter_some, if_pos hwanted]
    | false =>
      have hnone := Option.filter_eq_none_iff.mpr fun s hs =>
        Bool.eq_false_iff.mp ((Option.any_eq_false ..).mp hcarries s hs)
      rw [hnone]
      rfl

/-- A stream that has ended keeps its last line if it is wanted; the empty line is not. -/
theorem lines_keep (hempty : wanted "" = false) :
    lines max (keepWhole max wanted bs ++ keepLast max wanted bs) =
      (lines max bs).filter wanted := by
  rw [lines, lines, wholeLines_keep lineFeed_not_mem_keepLast, lastLine?_keep hempty,
    List.filter_append, Option.toList_filter]

/-- What is kept of a stream is the front of what is kept when more has come. -/
theorem keepWhole_isPrefix (bs more : List UInt8) :
    keepWhole max wanted bs <+: keepWhole max wanted (bs ++ more) := by
  rw [keepWhole, keepWhole, segments_append, List.filter_append, terminated, terminated,
    List.flatMap_append]
  exact List.prefix_append ..

end
end AlarmKeypad.LineDecoder
