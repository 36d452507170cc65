import AlarmKeypad.Proofs.Text.Blank
import AlarmKeypad.Proofs.Text.Utf8

namespace AlarmKeypad.Text

/-- The pieces are those of any list. -/
theorem splitAll_eq_splitOn (c : Char) (cs : List Char) : splitAll c cs = cs.splitOn c := by
  induction cs with
  | nil => rfl
  | cons x cs ih =>
    rw [splitAll, ih, List.splitOn_cons_eq_if_modifyHead]
    obtain ⟨p, ps, hsplit⟩ := List.exists_cons_of_ne_nil (List.splitOn_ne_nil c cs)
    by_cases hx : x = c <;> simp [hx, hsplit]

namespace Utf8

variable {b x lo hi : UInt8} {k acc : Nat} {r bs rest : List UInt8} {c : Char}

/-- What stands behind an ASCII byte has no part in the character in front of it. -/
theorem tail_append (hlo : 0x80 ≤ lo) (hx : x < 0x80) :
    tail k lo hi acc (bs ++ x :: rest) =
      ((tail k lo hi acc bs).1, (tail k lo hi acc bs).2 ++ x :: rest) := by
  induction k generalizing lo hi acc bs with
  | zero => rfl
  | succ k ih =>
    cases bs with
    | nil =>
      have hout : ¬lo ≤ x := UInt8.not_le.mpr (UInt8.lt_of_lt_of_le hx hlo)
      simp [tail, hout]
    | cons b r =>
      by_cases hb : lo ≤ b ∧ b ≤ hi
      · rw [List.cons_append, tail_cons hb, tail_cons hb, ih (UInt8.le_refl _)]
      · simp [tail, hb]

theorem le_of_lead (h : lead b = some (k, lo, hi)) : 0x80 ≤ lo := by
  unfold lead at h
  split_ifs at h
  all_goals
    obtain ⟨-, rfl, -⟩ := by simpa using h
    decide

theorem front_append (hx : x < 0x80) :
    front b (r ++ x :: rest) = ((front b r).1, (front b r).2 ++ x :: rest) := by
  unfold front
  split
  · rfl
  · split
    · rfl
    · rename_i hlead
      exact tail_append (le_of_lead hlead) hx

theorem tail_suffix (k : Nat) (lo hi : UInt8) (acc : Nat) (bs : List UInt8) :
    (tail k lo hi acc bs).2 <:+ bs := by
  induction k generalizing lo hi acc bs with
  | zero => exact List.suffix_refl _
  | succ k ih =>
    cases bs with
    | nil => exact List.suffix_refl _
    | cons b r =>
      unfold tail
      split
      · exact (ih ..).trans (List.suffix_cons b r)
      · exact List.suffix_refl _

theorem front_suffix (b : UInt8) (r : List UInt8) : (front b r).2 <:+ r := by
  unfold front
  split
  · exact List.suffix_refl _
  · split
    · exact List.suffix_refl _
    · exact tail_suffix ..

theorem front_of_ascii (hx : x < 0x80) (r : List UInt8) :
    front x r = (some (Char.ofNat x.toNat), r) := if_pos hx

/-- An ASCII character is read from its own byte alone. -/
theorem eq_of_front_ascii (h : (front b r).1.getD '\uFFFD' = c) (hc : c.toNat < 0x80) :
    b = c.toNat.toUInt8 ∧ (front b r).2 = r := by
  cases hf : (front b r).1 with
  | none =>
    -- what is no character is read as U+FFFD, which is not ASCII
    rw [hf] at h
    subst h
    exact absurd hc (by decide)
  | some d =>
    rw [hf, Option.getD_some] at h
    subst h
    have henc := eq_encodeChar_of_front (Prod.ext hf rfl)
    rw [encodeChar_one hc] at henc
    obtain ⟨hb, hr⟩ := List.cons_eq_cons.mp henc
    exact ⟨hb, hr.symm⟩

theorem decodeLossy_cons (b : UInt8) (r : List UInt8) : decodeLossy (b :: r) =
    (front b r).1.getD '\uFFFD' :: decodeLossy (front b r).2 := by
  rw [decodeLossy]

@[simp]
theorem decodeLossy_nil : decodeLossy [] = [] := by
  rw [decodeLossy]

theorem decodeLossy_eq_nil_iff : decodeLossy bs = [] ↔ bs = [] := by
  cases bs with
  | nil => simp
  | cons b r => simp [decodeLossy_cons]

/-- After an ASCII byte reading begins anew. -/
theorem decodeLossy_append_cons (hx : x < 0x80) (bs rest : List UInt8) :
    decodeLossy (bs ++ x :: rest) =
      decodeLossy bs ++ Char.ofNat x.toNat :: decodeLossy rest := by
  fun_induction decodeLossy bs with
  | case1 => rw [List.nil_append, List.nil_append, decodeLossy_cons, front_of_ascii hx]; rfl
  | case2 b r ih => rw [List.cons_append, decodeLossy_cons, front_append hx, ih, List.cons_append]

/-- An ASCII character comes from its own byte. -/
theorem mem_of_mem_decodeLossy (hc : c.toNat < 0x80) (h : c ∈ decodeLossy bs) :
    c.toNat.toUInt8 ∈ bs := by
  fun_induction decodeLossy bs with
  | case1 => exact nomatch h
  | case2 b r ih =>
    rcases List.mem_cons.mp h with h | h
    · exact (eq_of_front_ascii h.symm hc).1 ▸ List.mem_cons_self
    · exact List.mem_cons_of_mem b ((front_suffix b r).subset (ih h))

theorem toUInt8_toNat_ofNat (hx : x < 0x80) : (Char.ofNat x.toNat).toNat.toUInt8 = x := by
  have hlt : x.toNat < 0x80 := UInt8.lt_iff_toNat_lt.mp hx
  rw [toNat_ofNat (.inl (Nat.lt_trans hlt (by decide)))]
  exact eq_toUInt8 rfl

theorem toNat_ofNat_lt (hx : x < 0x80) : (Char.ofNat x.toNat).toNat < 0x80 := by
  have hlt : x.toNat < 0x80 := UInt8.lt_iff_toNat_lt.mp hx
  rwa [toNat_ofNat (.inl (Nat.lt_trans hlt (by decide)))]

/-- A text may be cut at an ASCII character before it is read or after. -/
theorem splitOn_decodeLossy (hx : x < 0x80) (bs : List UInt8) :
    (decodeLossy bs).splitOn (Char.ofNat x.toNat) = (bs.splitOn x).map decodeLossy := by
  have hnone {seg : List UInt8} (h : x ∉ seg) : Char.ofNat x.toNat ∉ decodeLossy seg :=
    fun hmem => h (toUInt8_toNat_ofNat hx ▸ mem_of_mem_decodeLossy (toNat_ofNat_lt hx) hmem)
  induction hn : bs.length using Nat.strong_induction_on generalizing bs with
  | h n ih =>
    by_cases hmem : x ∈ bs
    · obtain ⟨seg, rest, rfl, hseg⟩ := List.eq_append_cons_of_mem hmem
      have hrest := ih rest.length (by rw [← hn]; simp; omega) rest rfl
      rw [decodeLossy_append_cons hx, List.splitOn_append_cons_self_of_not_mem (hnone hseg), hrest,
        List.splitOn_append_cons_self_of_not_mem hseg, List.map_cons]
    · rw [List.splitOn_eq_singleton (hnone hmem), List.splitOn_eq_singleton hmem,
        List.map_singleton]

theorem getLast?_of_decodeLossy (hc : c.toNat < 0x80) (h : (decodeLossy bs).getLast? = some c) :
    bs.getLast? = some c.toNat.toUInt8 := by
  fun_induction decodeLossy bs with
  | case1 => exact nomatch h
  | case2 b r ih =>
    -- the character is the last that is read, or there is more to read
    by_cases hnil : (front b r).2 = []
    · rw [hnil, decodeLossy_nil, List.getLast?_singleton] at h
      obtain ⟨rfl, hr⟩ := eq_of_front_ascii (Option.some.inj h) hc
      rw [← hr, hnil]
      rfl
    · have hne : decodeLossy (front b r).2 ≠ [] := by
        obtain ⟨b', r', hcons⟩ := List.exists_cons_of_ne_nil hnil
        rw [hcons, decodeLossy_cons]
        exact List.cons_ne_nil _ _
      rw [List.getLast?_cons_of_ne_nil hne] at h
      obtain ⟨front', hfront⟩ := front_suffix b r
      rw [← hfront, ← List.cons_append, List.getLast?_append_of_ne_nil _ hnil]
      exact ih h

theorem decodeLossy_append_replicate (hx : x < 0x80) (bs : List UInt8) (n : Nat) :
    decodeLossy (bs ++ List.replicate n x) =
      decodeLossy bs ++ List.replicate n (Char.ofNat x.toNat) := by
  induction n generalizing bs with
  | zero => rw [List.replicate_zero, List.replicate_zero, List.append_nil, List.append_nil]
  | succ n ih =>
    have hrest := ih []
    rw [List.nil_append, decodeLossy_nil, List.nil_append] at hrest
    rw [List.replicate_succ, decodeLossy_append_cons hx, hrest, List.replicate_succ]

/-- The same ASCII characters go from the end of a text as bytes go before it is read. -/
theorem dropEndWhile_decodeLossy (hx : x < 0x80) (bs : List UInt8) :
    dropEndWhile (· == Char.ofNat x.toNat) (decodeLossy bs) =
      decodeLossy (bs.rdropWhile (· == x)) := by
  obtain ⟨n, hn⟩ : ∃ n, bs.rtakeWhile (· == x) = List.replicate n x :=
    ⟨_, List.eq_replicate_of_mem fun y hy => by simpa using List.mem_rtakeWhile_imp hy⟩
  have hsplit : bs.rdropWhile (· == x) ++ List.replicate n x = bs :=
    hn ▸ List.rdropWhile_append_rtakeWhile ..
  have hstays : ∀ c ∈ (decodeLossy (bs.rdropWhile (· == x))).getLast?,
      (c == Char.ofNat x.toNat) = false := by
    intro c hc
    by_contra hlast
    obtain rfl : c = Char.ofNat x.toNat := by simpa using hlast
    have hbyte := getLast?_of_decodeLossy (toNat_ofNat_lt hx) hc
    rw [toUInt8_toNat_ofNat hx] at hbyte
    obtain ⟨hne, heq⟩ := List.mem_getLast?_eq_getLast hbyte
    exact absurd (beq_iff_eq.mpr heq.symm) (List.rdropWhile_last_not _ _ hne)
  calc dropEndWhile (· == Char.ofNat x.toNat) (decodeLossy bs)
      = dropEndWhile (· == Char.ofNat x.toNat) (decodeLossy (bs.rdropWhile (· == x)) ++
          List.replicate n (Char.ofNat x.toNat)) := by
        rw [← decodeLossy_append_replicate hx, hsplit]
    _ = dropEndWhile (· == Char.ofNat x.toNat) (decodeLossy (bs.rdropWhile (· == x))) :=
        dropEndWhile_append (by simp)
    _ = decodeLossy (bs.rdropWhile (· == x)) := dropEndWhile_eq_self_iff.mpr hstays

end Utf8
end AlarmKeypad.Text
