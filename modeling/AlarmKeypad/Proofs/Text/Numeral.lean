import AlarmKeypad.Text.Numeral

namespace AlarmKeypad.Text

theorem ofDigits_eq (acc : Nat) (cs : List Char) :
    ofDigits acc cs = Nat.ofDigitChars 10 cs acc := by
  rw [Nat.ofDigitChars_eq_foldl]
  simp only [ofDigits, Nat.mul_comm 10]
  rfl

@[simp] theorem ofDigits_decimal (n : Nat) : ofDigits 0 (decimal n) = n := by
  rw [ofDigits_eq]
  exact Nat.ofDigitChars_ten_toDigits

theorem isDigit_of_mem_decimal {n : Nat} {c : Char} (h : c ∈ decimal n) : c.isDigit = true :=
  Nat.isDigit_of_mem_toDigits (by decide) (by decide) h

theorem decimal_ne_nil (n : Nat) : decimal n ≠ [] := Nat.toDigits_ne_nil

theorem natural?_decimal (n : Nat) : natural? (decimal n) = some n := by
  have hdigits : (decimal n).all Char.isDigit = true :=
    List.all_eq_true.mpr fun c hc => isDigit_of_mem_decimal hc
  rw [natural?, if_pos ⟨decimal_ne_nil n, hdigits⟩, ofDigits_decimal]

/-- Digits in front of which no plus sign stands. -/
theorem bounded?_eq (max : Nat) {cs : List Char} (h : ∀ r, cs ≠ '+' :: r) :
    bounded? max cs = (natural? cs).filter (· ≤ max) := by
  unfold bounded?
  split
  · rename_i r
    exact absurd rfl (h r)
  · rfl

theorem natural?_eq_some_iff {n : Nat} {cs : List Char} : natural? cs = some n ↔
    cs ≠ [] ∧ (∀ c ∈ cs, c.isDigit = true) ∧ Nat.ofDigitChars 10 cs 0 = n := by
  rw [natural?, Option.ite_none_right_eq_some, Option.some_inj, List.all_eq_true, ofDigits_eq,
    and_assoc]

theorem bounded?_eq_some_iff {max n : Nat} {cs : List Char} : bounded? max cs = some n ↔
    ∃ sign digits, cs = sign ++ digits ∧ (sign = [] ∨ sign = ['+']) ∧
      natural? digits = some n ∧ n ≤ max := by
  constructor
  · intro h
    unfold bounded? at h
    obtain ⟨hn, hle⟩ := Option.filter_eq_some_iff.mp h
    split at hn
    · exact ⟨['+'], _, rfl, .inr rfl, hn, of_decide_eq_true hle⟩
    · exact ⟨[], _, rfl, .inl rfl, hn, of_decide_eq_true hle⟩
  · rintro ⟨sign, digits, rfl, hsign, hn, hle⟩
    have hplus : ∀ r, digits ≠ '+' :: r := fun r heq =>
      absurd ((natural?_eq_some_iff.mp hn).2.1 '+' (heq ▸ List.mem_cons_self)) (by decide)
    have hkeep : (some n).filter (fun n => decide (n ≤ max)) = some n :=
      Option.filter_eq_some_iff.mpr ⟨rfl, decide_eq_true hle⟩
    rcases hsign with rfl | rfl
    · rw [List.nil_append, bounded?_eq max hplus, hn, hkeep]
    · exact (congrArg (Option.filter _) hn).trans hkeep

theorem bounded?_decimal {max n : Nat} (h : n ≤ max) : bounded? max (decimal n) = some n :=
  bounded?_eq_some_iff.mpr ⟨[], decimal n, rfl, .inl rfl, natural?_decimal n, h⟩

/-- The only numeral that starts with a zero is zero. -/
theorem eq_nil_of_decimal_eq_zero_cons {n : Nat} {r : List Char} (h : decimal n = '0' :: r) :
    r = [] := by
  induction n using Nat.strongRecOn generalizing r with
  | ind n ih =>
    by_cases hn : n < 10
    · have hlen : (decimal n).length = 1 := by rw [decimal, Nat.toDigits_of_lt_base hn]; rfl
      rw [h, List.length_cons] at hlen
      exact List.eq_nil_of_length_eq_zero (Nat.succ.inj hlen)
    · have hsplit : decimal n = decimal (n / 10) ++ [(n % 10).digitChar] :=
        Nat.toDigits_of_base_le (by decide) (Nat.le_of_not_lt hn)
      cases hd : decimal (n / 10) with
      | nil => exact absurd hd (decimal_ne_nil _)
      | cons d ds =>
        rw [hsplit, hd, List.cons_append] at h
        obtain ⟨rfl, -⟩ := List.cons.inj h
        -- the leading digits would spell zero
        obtain rfl := ih (n / 10) (by omega) hd
        have hzero : ofDigits 0 (decimal (n / 10)) = 0 := by rw [hd]; rfl
        rw [ofDigits_decimal] at hzero
        omega

end AlarmKeypad.Text
