import Mathlib.Tactic.Positivity
import Mathlib.Tactic.Ring
import Mathlib.Tactic.SplitIfs
import AlarmKeypad.Text.Utf8
/-!
# Reading UTF-8

Strict reading accepts exactly the bytes that writing produces, and these are the bytes that a text
is stored in. Every character is a first byte and, unless it is ASCII, a second one that the first
allows (`Leads`), with the rest of its bits in groups of six (`continuation`).
-/

namespace AlarmKeypad.Text.Utf8

/-- The last `k` groups of six bits of a number, each in a byte that goes on with a character. -/
def continuation : Nat → Nat → List UInt8
  | 0, _ => []
  | k + 1, n => (0x80 + n / 64 ^ k % 64).toUInt8 :: continuation k n

theorem toNat_toUInt8 {n : Nat} (h : n < 256) : n.toUInt8.toNat = n :=
  UInt8.toNat_ofNat_of_lt' h

theorem tail_cons {k acc : Nat} {lo hi b : UInt8} {r : List UInt8} (hb : lo ≤ b ∧ b ≤ hi) :
    tail (k + 1) lo hi acc (b :: r) = tail k 0x80 0xBF (acc * 64 + (b.toNat - 0x80)) r := by
  simp [tail, hb]

theorem continuation_add (k m n : Nat) : continuation k (m * 64 ^ k + n) = continuation k n := by
  induction k generalizing m with
  | zero => rfl
  | succ k ih =>
    have hpow : m * 64 ^ (k + 1) + n = (m * 64) * 64 ^ k + n := by rw [pow_succ]; ring
    have hdigit : (m * 64 * 64 ^ k + n) / 64 ^ k % 64 = n / 64 ^ k % 64 := by
      rw [Nat.mul_comm, Nat.mul_add_div (by positivity), Nat.mul_comm, Nat.mul_add_mod]
    rw [continuation, continuation, hpow, hdigit, ih]

theorem encodeChar_one {c : Char} (h : c.toNat < 0x80) : encodeChar c = [c.toNat.toUInt8] :=
  if_pos h

theorem encodeChar_two {c : Char} (h : 0x80 ≤ c.toNat) (h' : c.toNat < 0x800) :
    encodeChar c = (0xC0 + c.toNat / 64).toUInt8 :: continuation 1 c.toNat := by
  rw [encodeChar, if_neg (by omega), if_pos h']
  simp [continuation]

theorem encodeChar_three {c : Char} (h : 0x800 ≤ c.toNat) (h' : c.toNat < 0x10000) :
    encodeChar c = (0xE0 + c.toNat / 4096).toUInt8 :: continuation 2 c.toNat := by
  rw [encodeChar, if_neg (by omega), if_neg (by omega), if_pos h']
  simp [continuation]

theorem encodeChar_four {c : Char} (h : 0x10000 ≤ c.toNat) :
    encodeChar c = (0xF0 + c.toNat / 262144).toUInt8 :: continuation 3 c.toNat := by
  rw [encodeChar, if_neg (by omega), if_neg (by omega), if_neg (by omega)]
  simp [continuation]

theorem lead_eq (b : UInt8) : lead b =
    if b.toNat < 0xC2 then none
    else if b.toNat < 0xE0 then some (1, 0x80, 0xBF)
    else if b.toNat = 0xE0 then some (2, 0xA0, 0xBF)
    else if b.toNat = 0xED then some (2, 0x80, 0x9F)
    else if b.toNat < 0xF0 then some (2, 0x80, 0xBF)
    else if b.toNat = 0xF0 then some (3, 0x90, 0xBF)
    else if b.toNat < 0xF4 then some (3, 0x80, 0xBF)
    else if b.toNat = 0xF4 then some (3, 0x80, 0x8F)
    else none := by
  simp only [lead, UInt8.lt_iff_toNat_lt, beq_iff_eq, ← UInt8.toNat_inj]
  rfl

/-- A first byte of a character and one that may stand behind it, with `k` bytes in all behind the
first. -/
def Leads (k x y : Nat) : Prop :=
  0x80 ≤ y ∧ y < 0xC0 ∧
    (k = 1 ∧ 0xC2 ≤ x ∧ x < 0xE0 ∨
      k = 2 ∧ 0xE0 ≤ x ∧ x < 0xF0 ∧ (x = 0xE0 → 0xA0 ≤ y) ∧ (x = 0xED → y < 0xA0) ∨
      k = 3 ∧ 0xF0 ≤ x ∧ x < 0xF5 ∧ (x = 0xF0 → 0x90 ≤ y) ∧ (x = 0xF4 → y < 0x90))

theorem leads_iff {b b' : UInt8} {k : Nat} : Leads k b.toNat b'.toNat ↔
    ∃ lo hi, lead b = some (k, lo, hi) ∧ lo ≤ b' ∧ b' ≤ hi := by
  simp only [lead_eq, UInt8.le_iff_toNat_le]
  unfold Leads
  generalize b.toNat = x
  generalize b'.toNat = y
  constructor
  · intro h
    split_ifs
    all_goals simp
    all_goals omega
  · rintro ⟨lo, hi, h, h1, h2⟩
    split_ifs at h
    all_goals (simp at h; obtain ⟨rfl, rfl, rfl⟩ := h; simp at h1 h2; omega)

theorem front_of_leads {j : Nat} {b b' : UInt8} {r : List UInt8}
    (h : Leads (j + 1) b.toNat b'.toNat) : front b (b' :: r) =
      tail j 0x80 0xBF (leadBits b (j + 1) * 64 + (b'.toNat - 0x80)) r := by
  obtain ⟨lo, hi, hl, hb⟩ := leads_iff.mp h
  have hx : ¬b < 0x80 := by
    rw [UInt8.lt_iff_toNat_lt]
    change ¬b.toNat < 128
    unfold Leads at h
    omega
  rw [front, if_neg hx, hl]
  exact tail_cons hb

theorem leadBits_of_leads {k y : Nat} {b : UInt8} (h : Leads k b.toNat y) :
    leadBits b k = b.toNat - (0x100 - 2 ^ (7 - k)) := by
  unfold Leads at h
  unfold leadBits
  generalize b.toNat = x at h
  rcases h with ⟨-, -, ⟨rfl, h⟩ | ⟨rfl, h⟩ | ⟨rfl, h⟩⟩
  all_goals simp; omega

/-- A character of more than one byte: its first two bytes, and what they leave of it. -/
theorem exists_leads (c : Char) (h : 0x80 ≤ c.toNat) : ∃ j b b',
    Leads (j + 1) b.toNat b'.toNat ∧ encodeChar c = b :: b' :: continuation j c.toNat ∧
      (leadBits b (j + 1) * 64 + (b'.toNat - 0x80)) * 64 ^ j + c.toNat % 64 ^ j = c.toNat := by
  have hv : c.toNat.isValidChar := c.valid
  have hbits := fun {k y : Nat} {b : UInt8} => @leadBits_of_leads k y b
  unfold Leads at hbits ⊢
  unfold Nat.isValidChar at hv
  by_cases h2 : c.toNat < 0x800
  · have hb : (0xC0 + c.toNat / 64).toUInt8.toNat = _ := toNat_toUInt8 (by omega)
    have hb' : (0x80 + c.toNat / 64 ^ 0 % 64).toUInt8.toNat = _ := toNat_toUInt8 (by omega)
    refine ⟨0, _, _, ?_, encodeChar_two h h2, ?_⟩
    · rw [hb, hb']
      omega
    · rw [hbits (y := (0x80 + c.toNat / 64 ^ 0 % 64)) (by rw [hb]; omega), hb, hb']
      omega
  by_cases h3 : c.toNat < 0x10000
  · have hb : (0xE0 + c.toNat / 4096).toUInt8.toNat = _ := toNat_toUInt8 (by omega)
    have hb' : (0x80 + c.toNat / 64 ^ 1 % 64).toUInt8.toNat = _ := toNat_toUInt8 (by omega)
    refine ⟨1, _, _, ?_, encodeChar_three (by omega) h3, ?_⟩
    · rw [hb, hb']
      omega
    · rw [hbits (y := (0x80 + c.toNat / 64 ^ 1 % 64)) (by rw [hb]; omega), hb, hb']
      omega
  · have hb : (0xF0 + c.toNat / 262144).toUInt8.toNat = _ := toNat_toUInt8 (by omega)
    have hb' : (0x80 + c.toNat / 64 ^ 2 % 64).toUInt8.toNat = _ := toNat_toUInt8 (by omega)
    refine ⟨2, _, _, ?_, encodeChar_four (by omega), ?_⟩
    · rw [hb, hb']
      omega
    · rw [hbits (y := (0x80 + c.toNat / 64 ^ 2 % 64)) (by rw [hb]; omega), hb, hb']
      omega

theorem eq_toUInt8 {b : UInt8} {n : Nat} (h : n = b.toNat) : n.toUInt8 = b := by
  rw [h]
  exact UInt8.ofNat_toNat

theorem toNat_ofNat {n : Nat} (h : n.isValidChar) : (Char.ofNat n).toNat = n := by
  rw [Char.ofNat, dif_pos h]
  rfl

/-- Bytes that may begin a character do. -/
theorem encodeChar_of_leads {j m : Nat} {b b' : UInt8} (h : Leads (j + 1) b.toNat b'.toNat)
    (hm : m < 64 ^ j) :
    encodeChar (Char.ofNat ((leadBits b (j + 1) * 64 + (b'.toNat - 0x80)) * 64 ^ j + m)) =
      b :: b' :: continuation j m := by
  have hbits := leadBits_of_leads h
  have hrest := continuation_add j (leadBits b (j + 1) * 64 + (b'.toNat - 0x80)) m
  generalize hn : (leadBits b (j + 1) * 64 + (b'.toNat - 0x80)) * 64 ^ j + m = n at hrest ⊢
  have hnext (heq : 0x80 + n / 64 ^ j % 64 = b'.toNat) :
      continuation (j + 1) n = b' :: continuation j m :=
    congrArg₂ _ (eq_toUInt8 heq) hrest
  have hchar : n.isValidChar → (Char.ofNat n).toNat = n := toNat_ofNat
  unfold Nat.isValidChar at hchar
  unfold Leads at h
  -- in each class the code point is one of a character, and its bytes are those given
  rcases h with ⟨hy, hy', ⟨hk, h⟩ | ⟨hk, h⟩ | ⟨hk, h⟩⟩
  · obtain rfl : j = 0 := by omega
    have hc := hchar (by omega)
    rw [encodeChar_two (by omega) (by omega), hc, hnext (by omega), eq_toUInt8 (b := b) (by omega)]
  · obtain rfl : j = 1 := by omega
    have hc := hchar (by omega)
    rw [encodeChar_three (by omega) (by omega), hc, hnext (by omega),
      eq_toUInt8 (b := b) (by omega)]
  · obtain rfl : j = 2 := by omega
    have hc := hchar (by omega)
    rw [encodeChar_four (by omega), hc, hnext (by omega), eq_toUInt8 (b := b) (by omega)]


theorem tail_continuation (k acc n : Nat) (rest : List UInt8) :
    tail k 0x80 0xBF acc (continuation k n ++ rest) =
      (some (Char.ofNat (acc * 64 ^ k + n % 64 ^ k)), rest) := by
  induction k generalizing acc with
  | zero => simp [tail, continuation, Nat.mod_one]
  | succ k ih =>
    have hd : n / 64 ^ k % 64 < 64 := Nat.mod_lt _ (by decide)
    have hb : (0x80 + n / 64 ^ k % 64).toUInt8.toNat = 0x80 + n / 64 ^ k % 64 :=
      toNat_toUInt8 (by omega)
    have hrange : 0x80 ≤ (0x80 + n / 64 ^ k % 64).toUInt8 ∧
        (0x80 + n / 64 ^ k % 64).toUInt8 ≤ 0xBF := by
      rw [UInt8.le_iff_toNat_le, UInt8.le_iff_toNat_le, hb]
      change 128 ≤ _ ∧ _ ≤ 191
      omega
    have hvalue : (acc * 64 + n / 64 ^ k % 64) * 64 ^ k + n % 64 ^ k =
        acc * 64 ^ (k + 1) + n % 64 ^ (k + 1) := by
      rw [pow_succ, Nat.mod_mul]
      ring
    rw [continuation, List.cons_append, tail_cons hrange, ih, hb, Nat.add_sub_cancel_left, hvalue]

/-- Only bytes that go on with a character are read as the rest of one. -/
theorem eq_continuation_of_tail {k acc : Nat} {c : Char} {bs rest : List UInt8}
    (h : tail k 0x80 0xBF acc bs = (some c, rest)) :
    ∃ n < 64 ^ k, bs = continuation k n ++ rest ∧ c = Char.ofNat (acc * 64 ^ k + n) := by
  induction k generalizing acc bs with
  | zero =>
    obtain ⟨hc, rfl⟩ := Prod.mk.inj h
    exact ⟨0, by simp, rfl, by simpa using (Option.some.inj hc).symm⟩
  | succ k ih =>
    cases bs with
    | nil => exact absurd h (by simp [tail])
    | cons b r =>
      by_cases hb : 0x80 ≤ b ∧ b ≤ 0xBF
      · rw [tail_cons hb] at h
        obtain ⟨n, hn, rfl, rfl⟩ := ih h
        rw [UInt8.le_iff_toNat_le, UInt8.le_iff_toNat_le] at hb
        change 128 ≤ b.toNat ∧ b.toNat ≤ 191 at hb
        have hpos : 0 < 64 ^ k := by positivity
        have hdigit : ((b.toNat - 0x80) * 64 ^ k + n) / 64 ^ k = b.toNat - 0x80 := by
          rw [Nat.mul_comm, Nat.mul_add_div hpos, Nat.div_eq_of_lt hn, Nat.add_zero]
        have hvalue : (acc * 64 + (b.toNat - 0x80)) * 64 ^ k + n =
            acc * 64 ^ (k + 1) + ((b.toNat - 0x80) * 64 ^ k + n) := by
          rw [pow_succ]
          ring
        refine ⟨(b.toNat - 0x80) * 64 ^ k + n, ?_, ?_, congrArg Char.ofNat hvalue⟩
        · have hle : (b.toNat - 0x80 + 1) * 64 ^ k ≤ 64 * 64 ^ k :=
            Nat.mul_le_mul_right _ (by omega)
          rw [Nat.add_mul] at hle
          rw [pow_succ]
          omega
        · rw [continuation, continuation_add, hdigit, eq_toUInt8 (b := b) (by omega)]
          rfl
      · exact absurd h (by simp [tail, hb])

theorem front_encodeChar (c : Char) (rest : List UInt8) :
    ∃ b r, encodeChar c = b :: r ∧ front b (r ++ rest) = (some c, rest) := by
  by_cases h : c.toNat < 0x80
  · have hb : c.toNat.toUInt8.toNat = c.toNat := toNat_toUInt8 (by omega)
    have hlt : c.toNat.toUInt8 < 0x80 := by
      rw [UInt8.lt_iff_toNat_lt, hb]
      exact h
    refine ⟨_, _, encodeChar_one h, ?_⟩
    rw [front, if_pos hlt, hb, Char.ofNat_toNat]
    rfl
  · obtain ⟨j, b, b', hl, he, hn⟩ := exists_leads c (by omega)
    refine ⟨b, _, he, ?_⟩
    rw [List.cons_append, front_of_leads hl, tail_continuation, hn, Char.ofNat_toNat]

theorem encodeChar_ne_nil (c : Char) : encodeChar c ≠ [] := by
  obtain ⟨b, r, henc, -⟩ := front_encodeChar c []
  exact henc ▸ List.cons_ne_nil b r

theorem lead_ne_zero {b lo hi : UInt8} : lead b ≠ some (0, lo, hi) := by
  unfold lead
  split_ifs <;> simp

/-- Only the bytes of a character are read as that character. -/
theorem eq_encodeChar_of_front {b : UInt8} {r rest : List UInt8} {c : Char}
    (h : front b r = (some c, rest)) : b :: r = encodeChar c ++ rest := by
  unfold front at h
  split at h
  · rename_i hb
    obtain ⟨hc, rfl⟩ := Prod.mk.inj h
    obtain rfl := Option.some.inj hc
    have hlt : b.toNat < 0x80 := UInt8.lt_iff_toNat_lt.mp hb
    have hn : (Char.ofNat b.toNat).toNat = b.toNat :=
      toNat_ofNat (.inl (Nat.lt_trans hlt (by decide)))
    rw [encodeChar_one (hn.symm ▸ hlt), hn, eq_toUInt8 rfl]
    rfl
  · split at h
    · exact absurd h (by simp)
    · rename_i k lo hi hlead
      cases k with
      | zero => exact absurd hlead lead_ne_zero
      | succ j =>
        cases r with
        | nil => exact absurd h (by simp [tail])
        | cons b' r =>
          by_cases hb : lo ≤ b' ∧ b' ≤ hi
          · rw [tail_cons hb] at h
            obtain ⟨m, hm, rfl, rfl⟩ := eq_continuation_of_tail h
            rw [encodeChar_of_leads (leads_iff.mpr ⟨lo, hi, hlead, hb⟩) hm]
            rfl
          · exact absurd h (by simp [tail, hb])

@[simp]
theorem decode?_encode (cs : List Char) : decode? (encode cs) = some cs := by
  induction cs with
  | nil => simp [encode, decode?]
  | cons c cs ih =>
    obtain ⟨b, r, he, hf⟩ := front_encodeChar c (encode cs)
    have hcons : encode (c :: cs) = b :: (r ++ encode cs) := by
      rw [encode, List.flatMap_cons, he]
      rfl
    rw [hcons, decode?, hf]
    simp only [ih, Option.map_some]

theorem eq_encode_of_decode? {bs : List UInt8} {cs : List Char} (h : decode? bs = some cs) :
    bs = encode cs := by
  fun_induction decode? bs generalizing cs with
  | case1 =>
    obtain rfl := Option.some.inj h
    rfl
  | case2 b r hf => exact nomatch h
  | case3 b r c hf ih =>
    obtain ⟨cs, hcs, rfl⟩ := Option.map_eq_some_iff.mp h
    calc b :: r = encodeChar c ++ (front b r).2 := eq_encodeChar_of_front (Prod.ext hf rfl)
      _ = encode (c :: cs) := congrArg (encodeChar c ++ ·) (ih hcs)

theorem decode?_eq_some_iff {bs : List UInt8} {cs : List Char} :
    decode? bs = some cs ↔ bs = encode cs :=
  ⟨eq_encode_of_decode?, fun h => h ▸ decode?_encode cs⟩

theorem toNat_lt (c : Char) : c.toNat < 0x110000 := by
  rcases c.valid with h | ⟨-, h⟩
  · exact Nat.lt_trans h (by decide)
  · exact h

theorem encodeChar_eq (c : Char) : encodeChar c = String.utf8EncodeChar c := by
  have hc := toNat_lt c
  have hv : c.val.toNat = c.toNat := rfl
  have byte : ∀ {a b : Nat}, a = b → a.toUInt8 = UInt8.ofNat b := fun h => congrArg UInt8.ofNat h
  unfold encodeChar
  fun_cases String.utf8EncodeChar c with
  | case1 v h =>
    rw [if_pos (by omega)]
    rfl
  | case2 v h h' =>
    rw [if_neg (by omega), if_pos (by omega), byte (b := v / 64 % 32 + 192) (by omega),
      byte (b := v % 64 + 128) (by omega)]
  | case3 v h h' h'' =>
    rw [if_neg (by omega), if_neg (by omega), if_pos (by omega),
      byte (b := v / 4096 % 16 + 224) (by omega), byte (b := v / 64 % 64 + 128) (by omega),
      byte (b := v % 64 + 128) (by omega)]
  | case4 v h h' h'' =>
    rw [if_neg (by omega), if_neg (by omega), if_neg (by omega),
      byte (b := v / 262144 % 8 + 240) (by omega), byte (b := v / 4096 % 64 + 128) (by omega),
      byte (b := v / 64 % 64 + 128) (by omega), byte (b := v % 64 + 128) (by omega)]

/-- The bytes of a text are those that the text is stored in. -/
theorem toByteArray_encode (cs : List Char) : (encode cs).toByteArray = cs.utf8Encode := by
  rw [encode, funext encodeChar_eq]
  rfl

theorem decodeString?_eq_some_iff {bs : List UInt8} {s : String} :
    decodeString? bs = some s ↔ s.toByteArray = bs.toByteArray := by
  simp only [decodeString?, Option.map_eq_some_iff, decode?_eq_some_iff]
  constructor
  · rintro ⟨cs, rfl, rfl⟩
    rw [toByteArray_encode, String.toByteArray_ofList]
  · intro h
    refine ⟨s.toList, ?_, String.ofList_toList⟩
    rw [← List.toByteArray_inj, ← h, toByteArray_encode, ← String.toByteArray_ofList,
      String.ofList_toList]

theorem decodeString?_eq_fromUTF8? (bs : List UInt8) :
    decodeString? bs = String.fromUTF8? bs.toByteArray := by
  refine Option.ext fun s => decodeString?_eq_some_iff.trans ?_
  unfold String.fromUTF8?
  split
  · rename_i hv
    rw [Option.some_inj, eq_comm, ← String.toByteArray_inj]
    rfl
  · rename_i hv
    simp
    intro h
    exact hv (h ▸ s.isValidUTF8)

end AlarmKeypad.Text.Utf8
