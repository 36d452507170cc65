import AlarmKeypad.Proofs.Framing.Lines
/-!
# The decoder of lines

What one look at the buffer does to the lines of the stream, whatever bytes follow (`Gives`); the
same of all looks until a line is found; and that no fault of a segment ever leaves the decoder.
-/

namespace AlarmKeypad.LineDecoder

/-- The searched bytes are in the window and hold no line feed. -/
structure Valid (d : LineDecoder) (buf : List UInt8) : Prop where
  searched_le : d.searched ≤ d.window buf
  not_mem : lineFeed ∉ buf.take d.searched

/-- The bytes of the lines that are still to come: those behind the end of a line that is too long,
if the front belongs to one. -/
def ahead (d : LineDecoder) (buf : List UInt8) : List UInt8 :=
  if d.discarding then (buf.dropWhile (· ≠ lineFeed)).drop 1 else buf

/-- Lines are taken off a buffer: whatever bytes follow, they and the lines of what is left are
those of the buffer. -/
structure Gives (d : LineDecoder) (buf : List UInt8) (ss : List String) (d' : LineDecoder)
    (buf' : List UInt8) : Prop where
  max_eq : d'.max = d.max
  valid : d'.Valid buf'
  length_le : buf'.length + ss.length ≤ buf.length
  whole : ∀ more, wholeLines d.max (d.ahead (buf ++ more)) =
    ss ++ wholeLines d.max (d'.ahead (buf' ++ more))
  last : ∀ more, lastLine? d.max (d.ahead (buf ++ more)) = lastLine? d.max (d'.ahead (buf' ++ more))

variable {d d' d'' : LineDecoder} {buf buf' buf'' : List UInt8} {ss ss' : List String} {n : Nat}

theorem window_le (d : LineDecoder) (buf : List UInt8) : d.window buf ≤ buf.length :=
  Nat.min_le_right ..

theorem Valid.append (h : d.Valid buf) (more : List UInt8) : d.Valid (buf ++ more) := by
  have hlen : d.searched ≤ buf.length := h.searched_le.trans (window_le d buf)
  have hwindow : d.searched ≤ d.max + 1 := h.searched_le.trans (Nat.min_le_left ..)
  refine ⟨Nat.le_min.mpr ⟨hwindow, ?_⟩, ?_⟩
  · rw [List.length_append]
    omega
  · rw [List.take_append_of_le_length hlen]
    exact h.not_mem

theorem valid_zero {max : Nat} {discarding : Bool} : (LineDecoder.mk max 0 discarding).Valid buf :=
  ⟨Nat.zero_le _, by simp⟩

namespace Gives

theorem refl (h : d.Valid buf) : d.Gives buf [] d buf :=
  ⟨rfl, h, Nat.le_refl _, fun _ => rfl, fun _ => rfl⟩

theorem trans (h : d.Gives buf ss d' buf') (h' : d'.Gives buf' ss' d'' buf'') :
    d.Gives buf (ss ++ ss') d'' buf'' where
  max_eq := h'.max_eq.trans h.max_eq
  valid := h'.valid
  length_le := by
    have := h.length_le
    have := h'.length_le
    rw [List.length_append]
    omega
  whole more := by
    rw [h.whole, ← h.max_eq, h'.whole, List.append_assoc]
  last more := by
    rw [h.last, ← h.max_eq, h'.last]

theorem append (h : d.Gives buf ss d' buf') (more : List UInt8) :
    d.Gives (buf ++ more) ss d' (buf' ++ more) where
  max_eq := h.max_eq
  valid := h.valid.append more
  length_le := by
    have := h.length_le
    rw [List.length_append, List.length_append]
    omega
  whole rest := by rw [List.append_assoc, List.append_assoc, h.whole]
  last rest := by rw [List.append_assoc, List.append_assoc, h.last]

end Gives

/-- Where a line ends, a segment does. -/
theorem eq_segment_of_lineEnd? (hv : d.Valid buf) (h : d.lineEnd? buf = some n) :
    buf = buf.take n ++ lineFeed :: buf.drop (n + 1) ∧ lineFeed ∉ buf.take n ∧
      (buf.take n).length ≤ d.max := by
  have hlt := lt_length_of_lineEnd? h
  obtain ⟨i, hi, rfl⟩ := Option.map_eq_some_iff.mp h
  obtain ⟨hwin, hfeed, hbefore⟩ := List.findIdx?_eq_some_iff_getElem.mp hi
  have hw : d.window buf ≤ buf.length := window_le d buf
  have hmax : d.window buf ≤ d.max + 1 := Nat.min_le_left ..
  rw [List.length_drop, List.length_take, Nat.min_eq_left hw] at hwin
  simp only [List.getElem_drop, List.getElem_take, beq_iff_eq] at hfeed hbefore
  refine ⟨?_, ?_, ?_⟩
  · rw [← hfeed, ← List.drop_eq_getElem_cons hlt, List.take_append_drop]
  · intro hmem
    obtain ⟨j, hj, hfeed'⟩ := List.mem_take_iff_getElem.mp hmem
    by_cases hjs : j < d.searched
    · exact hv.not_mem (List.mem_take_iff_getElem.mpr ⟨j, by omega, hfeed'⟩)
    · refine hbefore (j - d.searched) (by omega) ?_
      simpa [Nat.add_sub_cancel' (Nat.not_lt.mp hjs)] using hfeed'
  · rw [List.length_take]
    omega

theorem not_mem_of_lineEnd? (hv : d.Valid buf) (h : d.lineEnd? buf = none) :
    lineFeed ∉ buf.take (d.window buf) := by
  have hnone := List.findIdx?_eq_none_iff.mp (Option.map_eq_none_iff.mp h)
  intro hmem
  rw [← List.take_append_drop d.searched (buf.take (d.window buf)), List.mem_append,
    List.take_take, Nat.min_eq_left hv.searched_le] at hmem
  rcases hmem with hmem | hmem
  · exact hv.not_mem hmem
  · exact absurd (hnone _ hmem) (by simp)

theorem ahead_of_discarding (hd : d.discarding = true) (h : lineFeed ∉ buf) (more : List UInt8) :
    d.ahead (buf ++ more) = d.ahead more := by
  have hall : ∀ b ∈ buf, decide (b ≠ lineFeed) = true := fun b hb =>
    decide_eq_true fun heq => h (heq ▸ hb)
  rw [ahead, ahead, if_pos hd, if_pos hd, List.dropWhile_append_of_pos hall]

theorem ahead_lineFeed (hd : d.discarding = true) (more : List UInt8) :
    d.ahead (lineFeed :: more) = more := by
  rw [ahead, if_pos hd, List.dropWhile_cons_of_neg (by simp)]
  rfl

theorem ahead_of_not_discarding (hd : ¬d.discarding = true) (bs : List UInt8) : d.ahead bs = bs :=
  if_neg hd

/-- A segment that is too long makes no difference to the lines. -/
theorem lines_ahead_of_long {e : LineDecoder} {bs : List UInt8} (he : e.discarding = true)
    (hlong : n < bs.length) (hfeed : lineFeed ∉ bs.take (n + 1)) :
    wholeLines n (e.ahead bs) = wholeLines n bs ∧ lastLine? n (e.ahead bs) = lastLine? n bs := by
  by_cases hmem : lineFeed ∈ bs
  · obtain ⟨seg, rest, rfl, hseg⟩ := List.eq_append_cons_of_mem hmem
    have hlen : n < seg.length := by
      by_contra hle
      refine hfeed (List.mem_take_iff_getElem.mpr ⟨seg.length, by simp; omega, ?_⟩)
      simp
    rw [ahead_of_discarding he hseg, ahead_lineFeed he, wholeLines_segment hseg, lastLine?_segment,
      textOf?_eq_none_of_lt hlen]
    exact ⟨rfl, rfl⟩
  · have hempty : e.ahead bs = [] := by
      simpa [ahead, he] using ahead_of_discarding he hmem []
    have hlast : lastLine? n bs = none := by
      rw [lastLine?, remainder_of_not_mem hmem, textOf?_eq_none_of_lt hlong, ite_self]
    rw [hempty, wholeLines_of_not_mem hmem, wholeLines_of_not_mem (by simp), hlast, lastLine?_nil]
    exact ⟨rfl, rfl⟩

/-- A segment whose end has come is looked at: its text is a line if it is short enough. -/
theorem gives_segment {seg : List UInt8} (hd : ¬d.discarding = true) (hseg : lineFeed ∉ seg)
    (rest : List UInt8) :
    d.Gives (seg ++ lineFeed :: rest) (textOf? d.max seg).toList { d with searched := 0 } rest where
  max_eq := rfl
  valid := valid_zero
  length_le := by
    have hone : (textOf? d.max seg).toList.length ≤ 1 := Option.length_toList_le
    rw [List.length_append, List.length_cons]
    omega
  whole more := by
    rw [ahead_of_not_discarding hd, ahead_of_not_discarding (d := { d with searched := 0 }) hd,
      List.append_assoc, List.cons_append, wholeLines_segment hseg]
  last more := by
    rw [ahead_of_not_discarding hd, ahead_of_not_discarding (d := { d with searched := 0 }) hd,
      List.append_assoc, List.cons_append, lastLine?_segment]

/-- The end of a segment that is too long. -/
theorem gives_end_of_long {seg : List UInt8} (hd : d.discarding = true) (hseg : lineFeed ∉ seg)
    (rest : List UInt8) :
    d.Gives (seg ++ lineFeed :: rest) [] { d with searched := 0, discarding := false } rest where
  max_eq := rfl
  valid := valid_zero
  length_le := by
    rw [List.length_append, List.length_cons, List.length_nil]
    omega
  whole more := by
    rw [List.append_assoc, List.cons_append, ahead_of_discarding hd hseg, ahead_lineFeed hd]
    rfl
  last more := by
    rw [List.append_assoc, List.cons_append, ahead_of_discarding hd hseg, ahead_lineFeed hd]
    rfl

/-- Bytes in the middle of a segment that is too long. -/
theorem gives_middle_of_long {seg : List UInt8} (hd : d.discarding = true) (hseg : lineFeed ∉ seg)
    (rest : List UInt8) :
    d.Gives (seg ++ rest) [] { d with searched := 0 } rest where
  max_eq := rfl
  valid := valid_zero
  length_le := by
    rw [List.length_append, List.length_nil]
    omega
  whole more := by
    rw [List.append_assoc, ahead_of_discarding hd hseg]
    rfl
  last more := by
    rw [List.append_assoc, ahead_of_discarding hd hseg]
    rfl

/-- More bytes than a line may have are the front of a segment that is too long. -/
theorem gives_front_of_long (h : d.Valid buf) (hd : ¬d.discarding = true)
    (hfeed : lineFeed ∉ buf.take (d.window buf)) (hlong : d.max < buf.length) :
    d.Gives buf [] { d with discarding := true } buf := by
  have hlonger : ∀ more, d.max < (buf ++ more).length := fun more => by
    rw [List.length_append]
    omega
  have hfeed' : ∀ more, lineFeed ∉ (buf ++ more).take (d.max + 1) := fun more => by
    rwa [List.take_append_of_le_length hlong, ← Nat.min_eq_left hlong]
  refine ⟨rfl, ⟨h.searched_le, h.not_mem⟩, Nat.le_refl _, fun more => ?_, fun more => ?_⟩
  · rw [ahead_of_not_discarding hd]
    exact (lines_ahead_of_long rfl (hlonger more) (hfeed' more)).1.symm
  · rw [ahead_of_not_discarding hd]
    exact (lines_ahead_of_long rfl (hlonger more) (hfeed' more)).2.symm

theorem line?_ofBytes (h : buf.length ≤ n) : (Found.ofBytes buf).line? = textOf? n buf := by
  rw [found_ofBytes h]
  cases textOf? n buf <;> rfl

/-- A look takes at most one line off the buffer. -/
theorem look_gives (h : d.Valid buf) :
    d.Gives buf (d.look buf).1.line?.toList (d.look buf).2.1 (d.look buf).2.2 := by
  fun_induction look d buf with
  | case1 d buf n hn hd ih =>
    obtain ⟨hbuf, hseg, -⟩ := eq_segment_of_lineEnd? h hn
    have hgives := gives_end_of_long hd hseg (buf.drop (n + 1))
    rw [← hbuf] at hgives
    exact hgives.trans (ih valid_zero)
  | case2 d buf n hn hd =>
    obtain ⟨hbuf, hseg, hlen⟩ := eq_segment_of_lineEnd? h hn
    have hgives := gives_segment hd hseg (buf.drop (n + 1))
    rw [← hbuf] at hgives
    rwa [line?_ofBytes hlen]
  | case3 d buf hn hd hw =>
    have hseg := not_mem_of_lineEnd? h hn
    rw [List.take_of_length_le hw] at hseg
    have hgives := gives_middle_of_long hd hseg []
    rwa [List.append_nil] at hgives
  | case4 d buf hn hd hw ih =>
    have hgives := gives_middle_of_long hd (not_mem_of_lineEnd? h hn)
      (buf.drop (d.window buf))
    rw [List.take_append_drop] at hgives
    exact hgives.trans (ih valid_zero)
  | case5 d buf hn hd hm => exact gives_front_of_long h hd (not_mem_of_lineEnd? h hn) hm
  | case6 d buf hn hd hm =>
    exact ⟨rfl, ⟨Nat.le_refl _, not_mem_of_lineEnd? h hn⟩, Nat.le_refl _, fun _ => rfl,
      fun _ => rfl⟩

/-- No line is left: what waits is the front of one that is short enough so far. -/
structure Exhausted (d : LineDecoder) (buf : List UInt8) : Prop where
  not_mem : lineFeed ∉ buf
  length_le : buf.length ≤ d.max
  of_discarding : d.discarding = true → buf = []

theorem Exhausted.ahead_eq (h : d.Exhausted buf) : d.ahead buf = buf := by
  by_cases hd : d.discarding = true
  · rw [h.of_discarding hd]
    simp [ahead]
  · exact ahead_of_not_discarding hd buf

theorem Exhausted.wholeLines_eq (h : d.Exhausted buf) : wholeLines n (d.ahead buf) = [] := by
  rw [h.ahead_eq, wholeLines_of_not_mem h.not_mem]

theorem exhausted_of_look (h : d.Valid buf) (hn : (d.look buf).1 = .nothing) :
    (d.look buf).2.1.Exhausted (d.look buf).2.2 := by
  fun_induction look d buf with
  | case1 d buf n hl hd ih => exact ih valid_zero hn
  | case2 d buf n hl hd =>
    exact absurd hn (by unfold Found.ofBytes; split <;> simp)
  | case3 d buf hl hd hw => exact ⟨by simp, Nat.zero_le _, fun _ => rfl⟩
  | case4 d buf hl hd hw ih => exact ih valid_zero hn
  | case5 d buf hl hd hm => exact Found.noConfusion hn
  | case6 d buf hl hd hm =>
    have hseg := not_mem_of_lineEnd? h hl
    rw [window, Nat.min_eq_right (by omega), List.take_length] at hseg
    exact ⟨hseg, Nat.not_lt.mp hm, fun hd' => absurd hd' hd⟩

/-- Lines are taken off a buffer that no more bytes come to. -/
structure GivesLast (d : LineDecoder) (buf : List UInt8) (ss : List String) (d' : LineDecoder)
    (buf' : List UInt8) : Prop where
  max_eq : d'.max = d.max
  valid : d'.Valid buf'
  length_le : buf'.length + ss.length ≤ buf.length
  lines : lines d.max (d.ahead buf) = ss ++ lines d.max (d'.ahead buf')

theorem Gives.givesLast (h : d.Gives buf ss d' buf') : d.GivesLast buf ss d' buf' where
  max_eq := h.max_eq
  valid := h.valid
  length_le := h.length_le
  lines := by
    have hwhole := h.whole []
    have hlast := h.last []
    rw [List.append_nil, List.append_nil] at hwhole hlast
    rw [LineDecoder.lines, LineDecoder.lines, hwhole, hlast, List.append_assoc]

theorem GivesLast.trans (h : d.GivesLast buf ss d' buf') (h' : d'.GivesLast buf' ss' d'' buf'') :
    d.GivesLast buf (ss ++ ss') d'' buf'' where
  max_eq := h'.max_eq.trans h.max_eq
  valid := h'.valid
  length_le := by
    have := h.length_le
    have := h'.length_le
    rw [List.length_append]
    omega
  lines := by rw [h.lines, ← h.max_eq, h'.lines, List.append_assoc]

theorem Exhausted.lines_eq (h : d.Exhausted buf) : LineDecoder.lines d.max (d.ahead buf) =
    if buf = [] ∨ buf = [carriageReturn] then [] else (textOf? d.max buf).toList := by
  rw [h.ahead_eq, LineDecoder.lines, wholeLines_of_not_mem h.not_mem, lastLine?,
    remainder_of_not_mem h.not_mem]
  split <;> rfl

theorem lookLast_of_nothing (hn : (d.look buf).1 = .nothing) : d.lookLast buf =
    if (d.look buf).2.2 = [] ∨ (d.look buf).2.2 = [carriageReturn] then
      (.nothing, { (d.look buf).2.1 with searched := 0 }, (d.look buf).2.2)
    else (.ofBytes (d.look buf).2.2, { (d.look buf).2.1 with searched := 0 }, []) := by
  unfold lookLast
  split
  · rename_i heq
    rw [heq]
  · rename_i hne
    exact (hne _ _ (Prod.ext hn rfl)).elim

theorem lookLast_of_ne (hn : (d.look buf).1 ≠ .nothing) : d.lookLast buf = d.look buf := by
  unfold lookLast
  split
  · rename_i heq
    exact absurd (congrArg Prod.fst heq) hn
  · rfl

/-- The last look takes what is left for a line. -/
theorem lookLast_gives (h : d.Valid buf) : d.GivesLast buf (d.lookLast buf).1.line?.toList
    (d.lookLast buf).2.1 (d.lookLast buf).2.2 := by
  by_cases hn : (d.look buf).1 = .nothing
  · have hgives := (look_gives h).givesLast
    have hex := exhausted_of_look h hn
    rw [lookLast_of_nothing hn]
    rw [hn] at hgives
    split
    · exact ⟨hgives.max_eq, valid_zero, hgives.length_le, hgives.lines⟩
    · rename_i hline
      refine ⟨hgives.max_eq, valid_zero, ?_, ?_⟩
      · have hone : (Found.ofBytes (d.look buf).2.2).line?.toList.length ≤ 1 :=
          Option.length_toList_le
        have hpos : 0 < (d.look buf).2.2.length := List.length_pos_iff.mpr fun h => hline (.inl h)
        have hle : (d.look buf).2.2.length ≤ buf.length := hgives.length_le
        simp only [List.length_nil]
        omega
      · rw [hgives.lines, ← hgives.max_eq, hex.lines_eq, if_neg hline, line?_ofBytes hex.length_le]
        simp [ahead, LineDecoder.lines, wholeLines_of_not_mem, lastLine?_nil, Found.line?]
  · rw [lookLast_of_ne hn]
    exact (look_gives h).givesLast

theorem lines_of_lookLast (h : d.Valid buf) (hn : (d.lookLast buf).1 = .nothing) :
    LineDecoder.lines d.max ((d.lookLast buf).2.1.ahead (d.lookLast buf).2.2) = [] := by
  by_cases hlook : (d.look buf).1 = .nothing
  · have hex := exhausted_of_look h hlook
    rw [lookLast_of_nothing hlook] at hn ⊢
    split at hn
    · rename_i hline
      rw [if_pos hline, ← (look_gives h).max_eq]
      exact hex.lines_eq.trans (if_pos hline)
    · exact absurd hn (by unfold Found.ofBytes; split <;> simp)
  · exact absurd hn (lookLast_of_ne hlook ▸ hlook)

theorem passesOver_fault {f : Found} {e : TransportFault} (h : f.fault? n = some e) :
    passesOver e = true := by
  cases f <;> cases h <;> rfl

theorem line?_of_fault {f : Found} {e : TransportFault} (h : f.fault? n = some e) :
    f.line? = none := by
  cases f <;> cases h <;> rfl

section retry
variable {seek : LineDecoder → List UInt8 → Found × LineDecoder × List UInt8}
  {hseek : ∀ d buf, (seek d buf).1 ≠ .nothing →
    weight (seek d buf).2.1 (seek d buf).2.2 < weight d buf}

theorem retry_of_fault {f : TransportFault} (h : (seek d buf).1.fault? d.max = some f) :
    retry seek hseek d buf = retry seek hseek (seek d buf).2.1 (seek d buf).2.2 := by
  rw [retry]
  split
  · rename_i hnone
    exact absurd (h.symm.trans hnone) (Option.some_ne_none f)
  · rename_i e he
    exact if_pos (passesOver_fault he)

theorem retry_of_no_fault (h : (seek d buf).1.fault? d.max = none) :
    retry seek hseek d buf = (.ok (seek d buf).1.line?, (seek d buf).2) := by
  rw [retry]
  split
  · rfl
  · rename_i e he
    exact absurd (he.symm.trans h) (Option.some_ne_none e)

/-- The decoder passes over some segments and then finds a line, or nothing; it never fails. -/
theorem exists_retry
    (hseek : ∀ d buf, (seek d buf).1 ≠ .nothing →
      weight (seek d buf).2.1 (seek d buf).2.2 < weight d buf)
    {R : LineDecoder → List UInt8 → List String → LineDecoder → List UInt8 → Prop}
    (refl : ∀ {d buf}, d.Valid buf → R d buf [] d buf)
    (gives : ∀ {d buf}, d.Valid buf →
      R d buf (seek d buf).1.line?.toList (seek d buf).2.1 (seek d buf).2.2)
    (trans : ∀ {d buf d' buf' d'' buf'' ss ss'}, R d buf ss d' buf' → R d' buf' ss' d'' buf'' →
      R d buf (ss ++ ss') d'' buf'')
    (valid : ∀ {d buf ss d' buf'}, R d buf ss d' buf' → d'.Valid buf') (h : d.Valid buf) :
    ∃ e bs, R d buf [] e bs ∧ (seek e bs).1.fault? e.max = none ∧
      retry seek hseek d buf = (.ok (seek e bs).1.line?, (seek e bs).2) := by
  fun_induction retry seek hseek d buf with
  | case1 d buf hfault => exact ⟨d, buf, refl h, hfault, rfl⟩
  | case2 d buf f hfault hpass ih =>
    have hfirst := gives h
    rw [line?_of_fault hfault] at hfirst
    obtain ⟨e, bs, hR, hnone, heq⟩ := ih (valid hfirst)
    exact ⟨e, bs, trans hfirst hR, hnone, heq⟩
  | case3 d buf f hfault hpass => exact absurd (passesOver_fault hfault) hpass

end retry

theorem retry_look (d : LineDecoder) (buf : List UInt8) :
    retry look weight_look_lt d buf = (.ok (d.decode buf).1, (d.decode buf).2) := by
  fun_induction decode d buf with
  | case1 d buf s next h => rw [retry_of_no_fault (by rw [h]; rfl), h]; rfl
  | case2 d buf next h => rw [retry_of_no_fault (by rw [h]; rfl), h]; rfl
  | case3 d buf d' buf' h ih => rw [retry_of_fault (by rw [h]; rfl), h, ih]
  | case4 d buf d' buf' h ih => rw [retry_of_fault (by rw [h]; rfl), h, ih]

theorem retry_lookLast (d : LineDecoder) (buf : List UInt8) :
    retry lookLast weight_lookLast_lt d buf = (.ok (d.decodeLast buf).1, (d.decodeLast buf).2) := by
  fun_induction decodeLast d buf with
  | case1 d buf s next h => rw [retry_of_no_fault (by rw [h]; rfl), h]; rfl
  | case2 d buf next h => rw [retry_of_no_fault (by rw [h]; rfl), h]; rfl
  | case3 d buf d' buf' h ih => rw [retry_of_fault (by rw [h]; rfl), h, ih]
  | case4 d buf d' buf' h ih => rw [retry_of_fault (by rw [h]; rfl), h, ih]

theorem eq_nothing {f : Found} (hfault : f.fault? n = none) (hline : f.line? = none) :
    f = .nothing := by
  cases f with
  | nothing => rfl
  | line s => exact nomatch hline
  | tooLong | notText => exact nomatch hfault

/-- What decoding finds: a line, or nothing because no line is left. -/
theorem decode_gives (h : d.Valid buf) :
    d.Gives buf (d.decode buf).1.toList (d.decode buf).2.1 (d.decode buf).2.2 ∧
      ((d.decode buf).1 = none → (d.decode buf).2.1.Exhausted (d.decode buf).2.2) := by
  obtain ⟨e, bs, hgives, hfault, heq⟩ :=
    exists_retry weight_look_lt Gives.refl look_gives Gives.trans Gives.valid h
  obtain ⟨hfound, hrest⟩ := Prod.mk.inj ((retry_look d buf).symm.trans heq)
  rw [Except.ok.inj hfound, hrest]
  exact ⟨hgives.trans (look_gives hgives.valid),
    fun hnone => exhausted_of_look hgives.valid (eq_nothing hfault hnone)⟩

theorem decodeLast_gives (h : d.Valid buf) :
    d.GivesLast buf (d.decodeLast buf).1.toList (d.decodeLast buf).2.1 (d.decodeLast buf).2.2 ∧
      ((d.decodeLast buf).1 = none →
        LineDecoder.lines d.max ((d.decodeLast buf).2.1.ahead (d.decodeLast buf).2.2) = []) := by
  obtain ⟨e, bs, hgives, hfault, heq⟩ :=
    exists_retry weight_lookLast_lt (fun hv => (Gives.refl hv).givesLast) lookLast_gives
      GivesLast.trans GivesLast.valid h
  obtain ⟨hfound, hrest⟩ := Prod.mk.inj ((retry_lookLast d buf).symm.trans heq)
  rw [Except.ok.inj hfound, hrest, ← hgives.max_eq]
  exact ⟨hgives.trans (lookLast_gives hgives.valid),
    fun hnone => lines_of_lookLast hgives.valid (eq_nothing hfault hnone)⟩

end AlarmKeypad.LineDecoder
