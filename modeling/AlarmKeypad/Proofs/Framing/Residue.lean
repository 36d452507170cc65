import AlarmKeypad.Proofs.Framing.Chunks
/-!
# What a call leaves

A call for a line is a loop inside a loop: a search goes round until it finds something, and after a
fault that is passed over another search begins. Every round of either loop lowers one weight, so
each call comes to its end; and a call that finds nothing leaves less than a line.
-/

namespace AlarmKeypad

namespace LineDecoder

variable {d d' : LineDecoder} {buf buf' : List UInt8} {f : Found} {ended : Bool}

/-! ## Rounds of a search -/

inductive Round where
  | found (f : Found) (d : LineDecoder) (buf : List UInt8)
  | again (d : LineDecoder) (buf : List UInt8)

/-- One round of a search. Another follows only while a line is passed over that is too long. -/
def round (d : LineDecoder) (buf : List UInt8) : Round :=
  match d.lineEnd? buf with
  | some n =>
    if d.discarding then .again { d with searched := 0, discarding := false } (buf.drop (n + 1))
    else .found (.ofBytes (buf.take n)) { d with searched := 0 } (buf.drop (n + 1))
  | none =>
    if d.discarding then
      if buf.length ≤ d.window buf then .found .nothing { d with searched := 0 } []
      else .again { d with searched := 0 } (buf.drop (d.window buf))
    else if d.max < buf.length then .found .tooLong { d with discarding := true } buf
    else .found .nothing { d with searched := d.window buf } buf

/-- A search is its first round and the rounds that follow. -/
theorem look_eq_round (d : LineDecoder) (buf : List UInt8) :
    d.look buf = match d.round buf with
      | .found f d' buf' => (f, d', buf')
      | .again d' buf' => d'.look buf' := by
  rw [look, round]
  split
  case h_1 n hn =>
    simp only [hn]
    split <;> rfl
  case h_2 hn =>
    simp only [hn]
    split
    case isTrue => split <;> rfl
    case isFalse => split <;> rfl

/-- A round that another follows takes bytes. -/
theorem round_again (h : d.round buf = .again d' buf') :
    d'.max = d.max ∧ buf' <:+ buf ∧ weight d' buf' < weight d buf := by
  unfold round at h
  split at h
  case h_1 n hn =>
    have hlt := lt_length_of_lineEnd? hn
    split at h
    case isTrue hd =>
      obtain ⟨rfl, rfl⟩ := Round.again.inj h
      refine ⟨rfl, List.drop_suffix .., ?_⟩
      rw [weight, weight, if_pos hd, if_neg Bool.false_ne_true, List.length_drop]
      omega
    case isFalse => cases h
  case h_2 hn =>
    split at h
    case isTrue hd =>
      split at h
      case isTrue => cases h
      case isFalse hw =>
        obtain ⟨rfl, rfl⟩ := Round.again.inj h
        refine ⟨rfl, List.drop_suffix .., ?_⟩
        rw [window] at hw
        rw [weight, weight, if_pos hd, List.length_drop, window]
        omega
    case isFalse => split at h <;> cases h

/-- What a round finds: the text of bytes it takes, a line that is too long, of which it takes none,
or nothing. -/
theorem round_found (h : d.round buf = .found f d' buf') : buf' <:+ buf ∧
    ((∃ bs, f = .ofBytes bs ∧ buf'.length < buf.length) ∨
      (f = .tooLong ∧ d' = { d with discarding := true } ∧ buf' = buf) ∨ f = .nothing) := by
  unfold round at h
  split at h
  case h_1 n hn =>
    have hlt := lt_length_of_lineEnd? hn
    split at h
    case isTrue => exact nomatch h
    case isFalse =>
      obtain ⟨rfl, rfl, rfl⟩ := Round.found.inj h
      refine ⟨List.drop_suffix .., .inl ⟨_, rfl, ?_⟩⟩
      rw [List.length_drop]
      omega
  case h_2 hn =>
    split at h
    case isTrue =>
      split at h
      case isTrue =>
        obtain ⟨rfl, rfl, rfl⟩ := Round.found.inj h
        exact ⟨List.nil_suffix, .inr (.inr rfl)⟩
      case isFalse => exact nomatch h
    case isFalse =>
      split at h
      case isTrue =>
        obtain ⟨rfl, rfl, rfl⟩ := Round.found.inj h
        exact ⟨List.suffix_rfl, .inr (.inl ⟨rfl, rfl, rfl⟩)⟩
      case isFalse =>
        obtain ⟨rfl, rfl, rfl⟩ := Round.found.inj h
        exact ⟨List.suffix_rfl, .inr (.inr rfl)⟩

theorem ofBytes_ne (bs : List UInt8) :
    Found.ofBytes bs ≠ .nothing ∧ Found.ofBytes bs ≠ .tooLong := by
  unfold Found.ofBytes
  split <;> exact ⟨Found.noConfusion, Found.noConfusion⟩

/-! ## The end of the stream -/

/-- What is found when no more bytes may come: where nothing was, what is left is a line. -/
def finish (ended : Bool) (r : Found × LineDecoder × List UInt8) :
    Found × LineDecoder × List UInt8 :=
  if ended = true ∧ r.1 = .nothing then
    if r.2.2 = [] ∨ r.2.2 = [carriageReturn] then (.nothing, { r.2.1 with searched := 0 }, r.2.2)
    else (.ofBytes r.2.2, { r.2.1 with searched := 0 }, [])
  else r

/-- A search, in a stream that may have ended. -/
def seek : Bool → LineDecoder → List UInt8 → Found × LineDecoder × List UInt8
  | false => look
  | true => lookLast

theorem seek_eq_finish (ended : Bool) (d : LineDecoder) (buf : List UInt8) :
    seek ended d buf = finish ended (d.look buf) := by
  cases ended with
  | false => rfl
  | true =>
    by_cases hn : (d.look buf).1 = .nothing
    · rw [finish, if_pos ⟨rfl, hn⟩]
      exact lookLast_of_nothing hn
    · rw [finish, if_neg fun h => hn h.2]
      exact lookLast_of_ne hn

theorem weight_seek_lt (ended : Bool) (d : LineDecoder) (buf : List UInt8)
    (h : (seek ended d buf).1 ≠ .nothing) :
    weight (seek ended d buf).2.1 (seek ended d buf).2.2 < weight d buf := by
  cases ended with
  | false => exact weight_look_lt d buf h
  | true => exact weight_lookLast_lt d buf h

theorem finish_suffix (ended : Bool) (r : Found × LineDecoder × List UInt8) :
    (finish ended r).2.2 <:+ r.2.2 := by
  unfold finish
  split
  · split
    · exact List.suffix_rfl
    · exact List.nil_suffix
  · exact List.suffix_rfl

end LineDecoder

namespace LineBuffer

open LineDecoder

/-! ## Rounds of a call -/

inductive Turn where
  | again (b : LineBuffer)
  | done (r : Except TransportFault (Option String)) (b : LineBuffer)

/-- What a call makes of what a search has found: after a fault of one line it goes on. -/
def conclude (max : Nat) (r : Found × LineDecoder × List UInt8) : Turn :=
  match r.1.fault? max with
  | none => .done (.ok r.1.line?) ⟨r.2.1, r.2.2⟩
  | some e =>
    if passesOver e then .again ⟨r.2.1, r.2.2⟩ else .done (.error e) ⟨r.2.1, r.2.2⟩

/-- One round of a call for a line, of the search or of the loop around it. -/
def turn (ended : Bool) (b : LineBuffer) : Turn :=
  match b.decoder.round b.bytes with
  | .again d buf => .again ⟨d, buf⟩
  | .found f d buf => conclude b.decoder.max (finish ended (f, d, buf))

/-- The rounds of a call from a buffer to its end, and how many there are. -/
inductive Turns (ended : Bool) :
    LineBuffer → Nat → Except TransportFault (Option String) → LineBuffer → Prop
  | done {b b' r} (h : b.turn ended = .done r b') : Turns ended b 1 r b'
  | again {b b' b'' n r} (h : b.turn ended = .again b') (rest : Turns ended b' n r b'') :
      Turns ended b (n + 1) r b''

/-- A call for a line, in a stream that may have ended. -/
def call : Bool → LineBuffer → Except TransportFault (Option String) × LineBuffer
  | false => tryNext
  | true => tryNextLast

variable {b b' b'' : LineBuffer} {ended : Bool} {n : Nat}
  {r : Except TransportFault (Option String)}

/-- A call searches, and is another call where the fault of one line was found. -/
theorem call_eq_conclude (ended : Bool) (b : LineBuffer) : b.call ended =
    match conclude b.decoder.max (seek ended b.decoder b.bytes) with
    | .done r b' => (r, b')
    | .again b' => b'.call ended := by
  have hcall (b : LineBuffer) : b.call ended =
      ((retry (seek ended) (weight_seek_lt ended) b.decoder b.bytes).1,
        ⟨(retry (seek ended) (weight_seek_lt ended) b.decoder b.bytes).2.1,
          (retry (seek ended) (weight_seek_lt ended) b.decoder b.bytes).2.2⟩) := by
    cases ended <;> rfl
  rw [hcall, conclude]
  cases hfault : (seek ended b.decoder b.bytes).1.fault? b.decoder.max with
  | none => rw [retry_of_no_fault hfault]
  | some e =>
    rw [retry_of_fault hfault]
    simp only [if_pos (passesOver_fault hfault), hcall]

/-- A call is its first round and the rounds that follow. -/
theorem call_eq_turn (ended : Bool) (b : LineBuffer) : b.call ended =
    match b.turn ended with
    | .done r b' => (r, b')
    | .again b' => b'.call ended := by
  rw [call_eq_conclude, seek_eq_finish, look_eq_round, turn]
  cases hround : b.decoder.round b.bytes with
  | found f d buf => rfl
  | again d buf =>
    obtain ⟨hmax, -, -⟩ := round_again hround
    dsimp only
    rw [call_eq_conclude, seek_eq_finish, hmax]

theorem conclude_again {max : Nat} {r : Found × LineDecoder × List UInt8}
    (h : conclude max r = .again b') : b' = ⟨r.2.1, r.2.2⟩ ∧ r.1 ≠ .nothing := by
  unfold conclude at h
  split at h
  case h_1 => exact nomatch h
  case h_2 e he =>
    rw [if_pos (passesOver_fault he)] at h
    exact ⟨(Turn.again.inj h).symm, fun hnothing => by simp [hnothing, Found.fault?] at he⟩

theorem conclude_done {max : Nat} {s : Found × LineDecoder × List UInt8}
    (h : conclude max s = .done r b') :
    b' = ⟨s.2.1, s.2.2⟩ ∧ r = .ok s.1.line? ∧ s.1.fault? max = none := by
  unfold conclude at h
  split at h
  case h_1 hnone =>
    obtain ⟨rfl, rfl⟩ := Turn.done.inj h
    exact ⟨rfl, rfl, hnone⟩
  case h_2 e he =>
    rw [if_pos (passesOver_fault he)] at h
    exact nomatch h

/-- A round that another follows takes bytes, or it reports a line that is too long. -/
theorem turn_again (h : b.turn ended = .again b') :
    b'.bytes <:+ b.bytes ∧ weight b'.decoder b'.bytes < weight b.decoder b.bytes := by
  unfold turn at h
  split at h
  case h_1 d buf hround =>
    obtain rfl := Turn.again.inj h
    exact (round_again hround).2
  case h_2 f d buf hround =>
    obtain ⟨rfl, hne⟩ := conclude_again h
    have hseek : seek ended b.decoder b.bytes = finish ended (f, d, buf) := by
      rw [seek_eq_finish, look_eq_round, hround]
    have hlt := weight_seek_lt ended b.decoder b.bytes (hseek ▸ hne)
    rw [hseek] at hlt
    exact ⟨(finish_suffix ended (f, d, buf)).trans (round_found hround).1, hlt⟩

/-- The round that ends a call is one that finds a line or nothing. -/
theorem turn_done (h : b.turn ended = .done r b') : ∃ f d buf,
    b.decoder.round b.bytes = .found f d buf ∧
      b' = ⟨(finish ended (f, d, buf)).2.1, (finish ended (f, d, buf)).2.2⟩ ∧
      r = .ok (finish ended (f, d, buf)).1.line? ∧
      (finish ended (f, d, buf)).1.fault? b.decoder.max = none := by
  unfold turn at h
  split at h
  case h_1 => exact nomatch h
  case h_2 f d buf hround => exact ⟨f, d, buf, hround, conclude_done h⟩

/-- The round that ends a call with a line takes bytes. -/
theorem turn_line {s : String} (h : b.turn ended = .done (.ok (some s)) b') :
    b'.bytes <:+ b.bytes ∧ b'.bytes.length < b.bytes.length := by
  obtain ⟨f, d, buf, hround, rfl, hline, -⟩ := turn_done h
  obtain ⟨hsuffix, hfound⟩ := round_found hround
  refine ⟨(finish_suffix ended (f, d, buf)).trans hsuffix, ?_⟩
  have hline := Except.ok.inj hline
  unfold finish at hline ⊢
  split at hline
  case isTrue hend =>
    split at hline
    case isTrue => exact nomatch hline
    case isFalse hrest =>
      -- all that is left is the line
      have hpos : 0 < buf.length := List.length_pos_iff.mpr fun hnil => hrest (.inl hnil)
      rw [if_pos hend, if_neg hrest]
      exact hpos.trans_le hsuffix.length_le
  case isFalse hend =>
    rw [if_neg hend]
    rcases hfound with ⟨_, -, hlt⟩ | ⟨rfl, -⟩ | rfl
    · exact hlt
    · exact nomatch hline
    · exact nomatch hline

/-- The round that ends the last call of a stream leaves nothing, or a single carriage return. -/
theorem turn_nothing (h : b.turn true = .done (.ok none) b') :
    b'.bytes = [] ∨ b'.bytes = [carriageReturn] := by
  obtain ⟨f, d, buf, -, rfl, hline, hfault⟩ := turn_done h
  have hnothing := eq_nothing hfault (Except.ok.inj hline).symm
  unfold finish at hnothing ⊢
  split at hnothing
  case isTrue hend =>
    rw [if_pos hend]
    split at hnothing
    case isTrue hrest =>
      rw [if_pos hrest]
      exact hrest
    case isFalse => exact absurd hnothing (ofBytes_ne buf).1
  case isFalse hend => exact absurd ⟨rfl, hnothing⟩ hend

/-- Every call comes to its end. -/
theorem exists_turns (ended : Bool) (b : LineBuffer) :
    ∃ n ≤ weight b.decoder b.bytes + 1,
      Turns ended b n (b.call ended).1 (b.call ended).2 := by
  induction hw : weight b.decoder b.bytes using Nat.strong_induction_on generalizing b with
  | _ w ih =>
    rw [call_eq_turn]
    cases hturn : b.turn ended with
    | done r b' => exact ⟨1, Nat.le_add_left .., .done hturn⟩
    | again b' =>
      have hlt := (turn_again hturn).2
      obtain ⟨n, hn, hturns⟩ := ih _ (hw ▸ hlt) b' rfl
      exact ⟨n + 1, by omega, .again hturn hturns⟩

/-- The last round of a call sees what is left of the bytes. -/
theorem Turns.exists_done (h : Turns ended b n r b') :
    ∃ e : LineBuffer, e.bytes <:+ b.bytes ∧ e.turn ended = .done r b' := by
  induction h with
  | done h => exact ⟨_, List.suffix_rfl, h⟩
  | again h _ ih =>
    obtain ⟨e, hsuffix, hdone⟩ := ih
    exact ⟨e, hsuffix.trans (turn_again h).1, hdone⟩

theorem exists_turn_of_call (h : b.call ended = (r, b')) :
    ∃ e : LineBuffer, e.bytes <:+ b.bytes ∧ e.turn ended = .done r b' := by
  obtain ⟨n, -, hturns⟩ := exists_turns ended b
  rw [h] at hturns
  exact hturns.exists_done

/-! ## Sequences of calls -/

/-- What is done with a buffer. -/
inductive Operation where
  | append (chunk : List UInt8)
  | call (ended : Bool)

def operate (b : LineBuffer) : Operation → LineBuffer
  | .append chunk => b.append chunk
  | .call ended => (b.call ended).2

def run (b : LineBuffer) (ops : List Operation) : LineBuffer := ops.foldl operate b

theorem valid_operate (h : b.Valid) (o : Operation) :
    (b.operate o).Valid ∧ (b.operate o).decoder.max = b.decoder.max := by
  cases o with
  | append chunk => exact ⟨Valid.append h chunk, rfl⟩
  | call ended =>
    cases ended with
    | false =>
      have hgives := next_gives h
      rw [operate, call, tryNext_eq]
      exact ⟨hgives.valid, hgives.max_eq⟩
    | true =>
      have hgives := nextLast_gives h
      rw [operate, call, tryNextLast_eq]
      exact ⟨hgives.valid, hgives.max_eq⟩

/-- However a decoder is used, it has searched no further than its window, and no line feed. -/
theorem valid_run (h : b.Valid) (ops : List Operation) :
    (b.run ops).Valid ∧ (b.run ops).decoder.max = b.decoder.max := by
  induction ops generalizing b with
  | nil => exact ⟨h, rfl⟩
  | cons o ops ih =>
    obtain ⟨hvalid, hmax⟩ := valid_operate h o
    obtain ⟨hvalid', hmax'⟩ := ih hvalid
    exact ⟨hvalid', hmax'.trans hmax⟩

/-- Chunks leave less than a line, if any have come. -/
theorem Feeds.length_le {chunks : List (List UInt8)} {ss : List String} (hf : Feeds b chunks ss b')
    (h : b.Valid) (hne : chunks ≠ []) : b'.bytes.length ≤ b.decoder.max := by
  cases hf with
  | stop => exact absurd rfl hne
  | more hread hrest =>
    obtain ⟨hfirst, hex⟩ := hread.gives (Valid.append h _)
    obtain ⟨hgives, hex'⟩ := hrest.gives hfirst.valid hex
    exact hex'.length_le.trans_eq (hgives.max_eq.trans hfirst.max_eq)

/-- Whatever bytes have come to a decoder and whatever calls were made: a call comes to its end
within two rounds for every byte and two more, although a line that is too long is reported before
any of its bytes is taken; with a line it takes at least one byte; and where it finds nothing, what
it leaves is the front of a line that is short enough, of which nothing is left while a line that is
too long is passed over. At the end of the stream it leaves nothing, or a single carriage return. So
chunks leave at most `max` bytes, however many come without a line feed. -/
theorem bounded_residue (max : Nat) (ops : List Operation) :
    let b := (new max).run ops
    (∀ ended, ∃ item, b.call ended = (.ok item, (b.call ended).2) ∧
      ∃ n ≤ 2 * b.bytes.length + 2, Turns ended b n (.ok item) (b.call ended).2) ∧
    (∀ d buf, b.decoder.round b.bytes = .found .tooLong d buf →
      d = { b.decoder with discarding := true } ∧ buf = b.bytes) ∧
    (∀ ended s left, b.call ended = (.ok (some s), left) →
      ∃ taken ≠ [], b.bytes = taken ++ left.bytes) ∧
    (∀ left, b.call false = (.ok none, left) →
      lineFeed ∉ left.bytes ∧ left.bytes.length ≤ max ∧
        (left.decoder.discarding = true → left.bytes = [])) ∧
    (∀ left, b.call true = (.ok none, left) →
      left.bytes = [] ∨ left.bytes = [carriageReturn]) ∧
    ∀ chunks ss left, chunks ≠ [] → Feeds b chunks ss left → left.bytes.length ≤ max := by
  intro b
  obtain ⟨hvalid, hmax⟩ : b.Valid ∧ b.decoder.max = max := valid_run (valid_new max) ops
  refine ⟨fun ended => ?ends, fun d buf hround => ?reports, fun ended s left h => ?takes,
    fun left h => ?leaves, fun left h => ?leavesLast, fun chunks ss left hne hfeeds => ?retains⟩
  case ends =>
    obtain ⟨n, hn, hturns⟩ := exists_turns ended b
    obtain ⟨e, -, hdone⟩ := hturns.exists_done
    obtain ⟨f, d, buf, -, -, hitem, -⟩ := turn_done hdone
    have hweight : weight b.decoder b.bytes ≤ 2 * b.bytes.length + 1 := by
      unfold weight
      split <;> omega
    exact ⟨_, Prod.ext hitem rfl, n, by omega, hitem ▸ hturns⟩
  case reports =>
    obtain ⟨-, ⟨bs, hbytes, -⟩ | ⟨-, hd, hbuf⟩ | hnothing⟩ := round_found hround
    · exact absurd hbytes.symm (ofBytes_ne bs).2
    · exact ⟨hd, hbuf⟩
    · exact nomatch hnothing
  case takes =>
    obtain ⟨e, hsuffix, hdone⟩ := exists_turn_of_call h
    obtain ⟨hleft, hlt⟩ := turn_line hdone
    obtain ⟨taken, htaken⟩ := hleft.trans hsuffix
    refine ⟨taken, ?_, htaken.symm⟩
    rintro rfl
    have hle := hsuffix.length_le
    rw [← htaken, List.nil_append] at hle
    exact absurd hlt (Nat.not_lt.mpr hle)
  case leaves =>
    rw [call, tryNext_eq] at h
    obtain ⟨hitem, rfl⟩ := Prod.mk.inj h
    have hex := exhausted_next hvalid (Except.ok.inj hitem)
    have hleft : b.next.2.decoder.max = max := (next_gives hvalid).max_eq.trans hmax
    exact ⟨hex.not_mem, hleft ▸ hex.length_le, hex.of_discarding⟩
  case leavesLast =>
    obtain ⟨e, -, hdone⟩ := exists_turn_of_call h
    exact turn_nothing hdone
  case retains => exact hmax ▸ hfeeds.length_le hvalid hne

/-- Of four bytes where a line has three at most, all wait when the line is reported, and none when
the call is over. -/
theorem bounded_residue_long :
    let b := (new 3).run [.append [97, 98, 99, 100]]
    let left : LineBuffer := ⟨⟨3, 0, true⟩, []⟩
    b.decoder.round b.bytes = .found .tooLong ⟨3, 0, true⟩ [97, 98, 99, 100] ∧
      b.call false = (.ok none, left) ∧ lineFeed ∉ left.bytes ∧ left.bytes.length ≤ 3 ∧
      (left.decoder.discarding = true → left.bytes = []) := by
  intro b left
  let reported : LineBuffer := ⟨⟨3, 0, true⟩, [97, 98, 99, 100]⟩
  have hfirst : b.turn false = .again reported := rfl
  have hlast : reported.turn false = .done (.ok none) left := rfl
  have hcall : b.call false = (.ok none, left) := by
    rw [call_eq_turn, hfirst]
    dsimp only
    rw [call_eq_turn, hlast]
  exact ⟨rfl, hcall, (bounded_residue 3 [.append [97, 98, 99, 100]]).2.2.2.1 left hcall⟩

end LineBuffer
end AlarmKeypad
