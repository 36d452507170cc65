import AlarmKeypad.Proofs.Text.Blank
import AlarmKeypad.Proofs.Text.Numeral
import AlarmKeypad.Toml.Quoted
import Mathlib.Data.List.TakeDrop

namespace AlarmKeypad.Toml.Quoted

variable {c q : Char} {cs r rest : List Char} {lines : Bool}

theorem isControl_eq (c : Char) : isControl c = !isPlain c := by
  by_cases ht : c = '\t'
  · subst ht
    rfl
  · have hne : (c == '\t') = false := beq_false_of_ne ht
    simp only [isControl, isPlain, bne, hne]
    by_cases hlow : c.toNat < 32 <;> by_cases hdel : c.toNat = 127 <;> simp [hlow, hdel]

/-! ## Escapes -/

theorem unescape?_plain (hp : isPlain c = true) (hb : c ≠ '\\') :
    unescape? lines false (c :: r) = (unescape? lines false r).map (c :: ·) := by
  rw [unescape?.eq_5]
  · simp [hp, hb]
  all_goals (intros; simp_all)

theorem unescape?_lineFeed :
    unescape? true false ('\n' :: r) = (unescape? true false r).map ('\n' :: ·) := by
  rw [unescape?.eq_5]
  · simp
  all_goals (intros; simp_all)

/-- A backslash and one character stand for one character. -/
theorem unescape?_escape {x : Char} (hx : escape? x = some c) :
    unescape? lines false ('\\' :: x :: r) = (unescape? lines false r).map (c :: ·) := by
  rw [unescape?.eq_4]
  · rw [hx]
  · rintro a b c d r rfl
    exact nomatch hx
  · rintro a b c d e f g h r rfl
    exact nomatch hx

theorem scalar?_of_isControl (h : isControl c = true) :
    scalar? ['0', '0', hexChar (c.toNat / 16), hexChar (c.toNat % 16)] = some c := by
  have hall : ∀ n : Fin 128, isControl (Char.ofNat n) = true →
      scalar? ['0', '0', hexChar (n / 16), hexChar (n % 16)] = some (Char.ofNat n) := by
    decide +kernel
  have hlt : c.toNat < 128 := by
    simp only [isControl, Bool.or_eq_true, Bool.and_eq_true, decide_eq_true_eq, beq_iff_eq] at h
    omega
  have hc := hall ⟨c.toNat, hlt⟩
  rw [Char.ofNat_toNat] at hc
  exact hc h

theorem unescape?_escapeChar (lines : Bool) (c : Char) (r : List Char) :
    unescape? lines false (escapeChar lines c ++ r) = (unescape? lines false r).map (c :: ·) := by
  unfold escapeChar
  split
  · subst c; exact unescape?_escape rfl
  split
  · subst c; exact unescape?_escape rfl
  split
  · subst c
    cases lines with
    | true => exact unescape?_lineFeed
    | false => exact unescape?_escape rfl
  split
  · subst c; exact unescape?_escape rfl
  split
  · subst c; exact unescape?_escape rfl
  split
  · subst c; exact unescape?_escape rfl
  rename_i hb
  split
  · rename_i hc
    change unescape? lines false ('\\' :: 'u' :: '0' :: '0' :: _ :: _ :: r) = _
    rw [unescape?, scalar?_of_isControl hc]
    cases unescape? lines false r <;> rfl
  · rename_i hc
    rw [isControl_eq, Bool.not_eq_true', Bool.not_eq_false] at hc
    exact unescape?_plain hc hb

/-- Text with escapes stands for the text. -/
theorem unescape?_escapeText (lines : Bool) (run : Nat) (cs : List Char) :
    unescape? lines false (escapeText lines run cs) = some cs := by
  induction cs generalizing run with
  | nil => rfl
  | cons c cs ih =>
    unfold escapeText
    split
    · rename_i hc
      subst hc
      split
      · rw [unescape?_plain rfl (by decide), ih]
        rfl
      · rw [unescape?_escape rfl, ih]
        rfl
    · rw [unescape?_escapeChar, ih]
      rfl

/-! ## Closing quotes -/

/-- Raw text without a quote of its own: every quote in it has a backslash before it. -/
inductive Raw : List Char → Prop
  | nil : Raw []
  | char {x : Char} {t : List Char} (hq : x ≠ '"') (hb : x ≠ '\\') (h : Raw t) : Raw (x :: t)
  | escape (x : Char) {t : List Char} (h : Raw t) : Raw ('\\' :: x :: t)

theorem Raw.head_ne (h : Raw r) : ∀ c ∈ r.head?, c ≠ '"' := by
  cases h with
  | nil => exact nofun
  | char hq => exact fun _ hx => Option.some.inj hx ▸ hq
  | escape => exact fun _ hx => Option.some.inj hx ▸ by decide

theorem Raw.append {r' : List Char} (h : Raw r) (h' : Raw r') : Raw (r ++ r') := by
  induction h with
  | nil => exact h'
  | char hq hb _ ih => exact .char hq hb ih
  | escape c _ ih => exact .escape c ih

theorem hexChar_ne {n : Nat} (h : n < 16) : hexChar n ≠ '"' ∧ hexChar n ≠ '\\' := by
  have hall : ∀ n : Fin 16, hexChar n ≠ '"' ∧ hexChar n ≠ '\\' := by decide
  exact hall ⟨n, h⟩

theorem escapeChar_ne_nil (lines : Bool) (c : Char) : escapeChar lines c ≠ [] := by
  unfold escapeChar
  repeat' split
  all_goals exact List.cons_ne_nil _ _

theorem raw_escapeChar (lines : Bool) (hq : c ≠ '"') : Raw (escapeChar lines c) := by
  unfold escapeChar
  split
  · exact .escape _ .nil
  split
  · exact .escape _ .nil
  split
  · cases lines with
    | true => exact .char (by decide) (by decide) .nil
    | false => exact .escape _ .nil
  split
  · exact .escape _ .nil
  split
  · exact .escape _ .nil
  split
  · exact .escape _ .nil
  rename_i hb
  split
  · rename_i hc
    have hlt : c.toNat < 256 := by
      simp only [isControl, Bool.or_eq_true, Bool.and_eq_true, decide_eq_true_eq, beq_iff_eq] at hc
      omega
    obtain ⟨hq, hb⟩ := hexChar_ne (n := c.toNat / 16) (by omega)
    obtain ⟨hq', hb'⟩ := hexChar_ne (n := c.toNat % 16) (by omega)
    exact .escape _ (.char (by decide) (by decide) (.char (by decide) (by decide)
      (.char hq hb (.char hq' hb' .nil))))
  · exact .char hq hb .nil

theorem basicRaw?_append (h : Raw r) (rest : List Char) :
    basicRaw? (r ++ rest) = (basicRaw? rest).map fun (raw, rest) => (r ++ raw, rest) := by
  induction h with
  | nil => simp
  | @char c r hq hb _ ih =>
    rw [List.cons_append, basicRaw?, ih]
    · cases basicRaw? rest <;> rfl
    all_goals (intros; simp_all)
  | escape c _ ih =>
    rw [List.cons_append, List.cons_append, basicRaw?, ih]
    cases basicRaw? rest <;> rfl

/-- On one line every quote is escaped. -/
theorem raw_escapeText (run : Nat) (cs : List Char) : Raw (escapeText false run cs) := by
  induction cs generalizing run with
  | nil => exact .nil
  | cons c cs ih =>
    unfold escapeText
    split
    · exact .escape c (ih 0)
    · exact (raw_escapeChar false ‹_›).append (ih 0)

theorem basicRaw?_escapeText (cs rest : List Char) :
    basicRaw? (escapeText false 0 cs ++ '"' :: rest) = some (escapeText false 0 cs, rest) := by
  rw [basicRaw?_append (raw_escapeText 0 cs), basicRaw?]
  simp

theorem takeWhile_run {q : Char} (m : Nat) {r : List Char} (hr : ∀ c ∈ r.head?, c ≠ q) :
    ((List.replicate m q ++ r).takeWhile (· == q)).length = m := by
  have hnil : r.takeWhile (· == q) = [] := by
    cases r with
    | nil => rfl
    | cons c r => exact List.takeWhile_cons_of_neg (by simpa using hr c rfl)
  rw [List.takeWhile_append_of_pos (fun c hc => by simp [List.eq_of_mem_replicate hc]), hnil,
    List.append_nil, List.length_replicate]

/-- Fewer than three quotes do not close a text on several lines. -/
theorem closing?_eq_none {m : Nat} (hm : m ≤ 2) (hr : ∀ c ∈ r.head?, c ≠ q) :
    closing? q (List.replicate m q ++ r) = none := by
  rw [closing?, takeWhile_run m hr]
  exact if_neg (by omega)

/-- Of the quotes before the rest the last three close the text. -/
theorem closing?_run {m : Nat} (hm : m ≤ 2) (hrest : ∀ c ∈ rest.head?, c ≠ q) :
    closing? q (List.replicate m q ++ q :: q :: q :: rest) =
      some (List.replicate m q, rest) := by
  have hquotes : List.replicate m q ++ q :: q :: q :: rest = List.replicate (m + 3) q ++ rest := by
    rw [← List.replicate_append_replicate, List.append_assoc]
    rfl
  rw [closing?, hquotes, takeWhile_run _ hrest, Nat.min_eq_right (by omega)]
  rw [if_pos (by omega), Nat.add_sub_cancel, List.drop_left' (List.length_replicate ..)]

theorem closing?_of_ne (hc : c ≠ q) : closing? q (c :: r) = none :=
  closing?_eq_none (m := 0) (Nat.zero_le 2) fun _ hx => Option.some.inj hx ▸ hc

theorem basicLinesRaw?_append (h : Raw r) (rest : List Char) :
    basicLinesRaw? (r ++ rest) =
      (basicLinesRaw? rest).map fun (raw, rest) => (r ++ raw, rest) := by
  induction h with
  | nil => simp
  | @char c r hq hb _ ih =>
    rw [List.cons_append, basicLinesRaw?, closing?_of_ne hq, ih]
    · cases basicLinesRaw? rest <;> rfl
    all_goals (intros; simp_all)
  | escape c _ ih =>
    rw [List.cons_append, List.cons_append, basicLinesRaw?, ih]
    cases basicLinesRaw? rest <;> rfl

/-- A text on several lines begins with at most two quotes. -/
theorem escapeText_lines_eq (run : Nat) (cs : List Char) : ∃ m tail,
    escapeText true run cs = List.replicate m '"' ++ tail ∧ (m = 0 ∨ m + run ≤ 2) ∧
      ∀ c ∈ tail.head?, c ≠ '"' := by
  induction cs generalizing run with
  | nil => exact ⟨0, [], rfl, .inl rfl, nofun⟩
  | cons c cs ih =>
    unfold escapeText
    split
    · rename_i hc
      subst hc
      split
      · rename_i hrun
        obtain ⟨m, tail, heq, hm, htail⟩ := ih (run + 1)
        have hlt : run < 2 := by simpa using hrun
        refine ⟨m + 1, tail, ?_, .inr (by omega), htail⟩
        rw [heq, List.replicate_succ, List.cons_append]
      · exact ⟨0, _, rfl, .inl rfl, fun _ hx => Option.some.inj hx ▸ by decide⟩
    · rename_i hc
      refine ⟨0, _, rfl, .inl rfl, ?_⟩
      obtain ⟨x, t, hx⟩ := List.exists_cons_of_ne_nil (escapeChar_ne_nil true c)
      have hraw := raw_escapeChar true hc
      rw [hx] at hraw ⊢
      exact hraw.head_ne

theorem basicLinesRaw?_of_closing {p : List Char × List Char}
    (h : closing? '"' ('"' :: r) = some p) : basicLinesRaw? ('"' :: r) = some p := by
  rw [basicLinesRaw?, h]
  all_goals (intros; simp_all)

theorem basicLinesRaw?_of_not_closing (h : closing? '"' ('"' :: r) = none) :
    basicLinesRaw? ('"' :: r) = (basicLinesRaw? r).map fun (raw, rest) => ('"' :: raw, rest) := by
  rw [basicLinesRaw?, h]
  all_goals (intros; simp_all)

theorem run_cons (m : Nat) (q : Char) (r : List Char) :
    List.replicate m q ++ q :: r = q :: (List.replicate m q ++ r) := by
  induction m with
  | zero => rfl
  | succ m ih => rw [List.replicate_succ, List.cons_append, ih, List.cons_append]

theorem basicLinesRaw?_escapeText (run : Nat) (cs : List Char) (hrest : ∀ c ∈ rest.head?, c ≠ '"') :
    basicLinesRaw? (escapeText true run cs ++ '"' :: '"' :: '"' :: rest) =
      some (escapeText true run cs, rest) := by
  induction cs generalizing run with
  | nil => exact basicLinesRaw?_of_closing (closing?_run (m := 0) (Nat.zero_le 2) hrest)
  | cons c cs ih =>
    obtain ⟨m, tail, heq, hm, htail⟩ := escapeText_lines_eq run (c :: cs)
    cases tail with
    | nil =>
      -- all that is left are quotes of the text, and those that close it
      rw [heq, List.append_nil]
      have hclosing := closing?_run (q := '"') (m := m) (by omega) hrest
      rw [run_cons] at hclosing ⊢
      exact basicLinesRaw?_of_closing hclosing
    | cons x tail =>
      unfold escapeText at heq ⊢
      split
      · rename_i hc
        subst hc
        rw [if_pos rfl] at heq
        split
        · rename_i hrun
          rw [if_pos hrun] at heq
          have hnone : closing? '"' ('"' :: (escapeText true (run + 1) cs ++
              '"' :: '"' :: '"' :: rest)) = none := by
            rw [← List.cons_append, heq, List.append_assoc]
            exact closing?_eq_none (by omega) htail
          rw [List.cons_append, basicLinesRaw?_of_not_closing hnone, ih]
          rfl
        · rw [List.cons_append, List.cons_append, basicLinesRaw?, ih]
          rfl
      · rename_i hc
        rw [List.append_assoc, basicLinesRaw?_append (raw_escapeChar true hc), ih]
        rfl

/-! ## Literal text -/

theorem literal?_eq (h : ∀ c ∈ cs, isPlain c = true ∨ lines = true ∧ c = '\n') :
    literal? lines cs = some cs := by
  induction cs with
  | nil => rfl
  | cons c cs ih =>
    obtain ⟨hc, hcs⟩ := List.forall_mem_cons.mp h
    rw [literal?, ih hcs]
    · refine if_pos ?_
      rcases hc with hp | ⟨rfl, rfl⟩
      · rw [hp]
        rfl
      · rfl
    · -- a carriage return is not plain
      rintro r rfl -
      rcases hc with hp | ⟨-, hc⟩ <;> exact absurd ‹_› (by decide)

theorem le_longestRun (q : Char) (run : Nat) (cs : List Char) : run ≤ longestRun q run cs := by
  induction cs generalizing run with
  | nil => exact Nat.le_refl run
  | cons c cs ih =>
    unfold longestRun
    split
    · exact Nat.le_trans (Nat.le_succ run) (ih _)
    · exact Nat.le_max_left _ _

theorem not_mem_of_longestRun {run : Nat} (h : longestRun q run cs = 0) : q ∉ cs := by
  induction cs generalizing run with
  | nil => exact List.not_mem_nil
  | cons c cs ih =>
    unfold longestRun at h
    split at h
    · have hle := le_longestRun q (run + 1) cs
      omega
    · rename_i hne
      rintro (_ | ⟨_, hmem⟩)
      · exact hne rfl
      · exact ih (Nat.max_eq_zero_iff.mp h).2 hmem

/-- A text whose longest run is short begins with a short run. -/
theorem eq_run (q : Char) (run : Nat) (cs : List Char) : ∃ m tail,
    cs = List.replicate m q ++ tail ∧ m + run ≤ longestRun q run cs ∧
      ∀ c ∈ tail.head?, c ≠ q := by
  induction cs generalizing run with
  | nil => exact ⟨0, [], rfl, by simp [longestRun], nofun⟩
  | cons c cs ih =>
    unfold longestRun
    split
    · rename_i hc
      subst hc
      obtain ⟨m, tail, heq, hm, htail⟩ := ih (run + 1)
      exact ⟨m + 1, tail, congrArg (c :: ·) heq, by omega, htail⟩
    · rename_i hc
      refine ⟨0, c :: cs, rfl, ?_, fun _ hx => Option.some.inj hx ▸ hc⟩
      rw [Nat.zero_add]
      exact Nat.le_max_left _ _

theorem longestRun_tail_le {run : Nat} (h : longestRun q run (c :: cs) ≤ 2) :
    ∃ run, longestRun q run cs ≤ 2 := by
  unfold longestRun at h
  split at h
  · exact ⟨_, h⟩
  · exact ⟨0, Nat.le_trans (Nat.le_max_right _ _) h⟩

theorem literalLinesRaw?_of_closing {p : List Char × List Char}
    (h : closing? '\'' (c :: r) = some p) : literalLinesRaw? (c :: r) = some p := by
  rw [literalLinesRaw?, h]

theorem literalLinesRaw?_of_not_closing (h : closing? '\'' (c :: r) = none) :
    literalLinesRaw? (c :: r) =
      (literalLinesRaw? r).map fun (raw, rest) => (c :: raw, rest) := by
  rw [literalLinesRaw?, h]

theorem literalLinesRaw?_append {run : Nat} (hrun : longestRun '\'' run cs ≤ 2)
    (hrest : ∀ c ∈ rest.head?, c ≠ '\'') :
    literalLinesRaw? (cs ++ '\'' :: '\'' :: '\'' :: rest) = some (cs, rest) := by
  induction cs generalizing run with
  | nil => exact literalLinesRaw?_of_closing (closing?_run (m := 0) (Nat.zero_le 2) hrest)
  | cons c cs ih =>
    obtain ⟨m, tail, heq, hm, htail⟩ := eq_run '\'' run (c :: cs)
    obtain ⟨run', hrun'⟩ := longestRun_tail_le hrun
    cases tail with
    | nil =>
      have hclosing := closing?_run (q := '\'') (m := m) (by omega) hrest
      rw [List.append_nil] at heq
      rw [← heq] at hclosing
      exact literalLinesRaw?_of_closing hclosing
    | cons x tail =>
      have hnone : closing? '\'' (c :: (cs ++ '\'' :: '\'' :: '\'' :: rest)) = none := by
        rw [← List.cons_append, heq, List.append_assoc]
        exact closing?_eq_none (by omega) htail
      rw [List.cons_append, literalLinesRaw?_of_not_closing hnone, ih hrun']
      rfl

/-! ## Whole texts -/

theorem line?_basic (cs rest : List Char) :
    line? (Style.basic.write cs ++ rest) = some (String.ofList cs, rest) := by
  have htext : Style.basic.write cs ++ rest = '"' :: (escapeText false 0 cs ++ '"' :: rest) := by
    simp [Style.write]
  rw [htext, line?, basicRaw?_escapeText]
  simp [unescape?_escapeText]

theorem line?_literal (hcs : cs.any isControl = false) (hq : '\'' ∉ cs) (rest : List Char) :
    line? (Style.literal.write cs ++ rest) = some (String.ofList cs, rest) := by
  have htext : Style.literal.write cs ++ rest = '\'' :: (cs ++ '\'' :: rest) := by
    simp [Style.write]
  have hplain : literal? false cs = some cs := literal?_eq fun c hc => .inl (by
    simpa [isControl_eq] using List.any_eq_false.mp hcs c hc)
  rw [htext, line?, Text.splitOnce_append hq]
  simp [hplain]

theorem read?_eq_line? (h : ∀ q r, cs ≠ q :: q :: q :: r) : read? cs = line? cs := by
  rw [read?]
  all_goals exact h _

theorem dropLineEnd_start (h : '\n' ∈ cs ∨ ∀ c ∈ r.head?, c ≠ '\n' ∧ c ≠ '\r') :
    dropLineEnd ((if cs.contains '\n' then ['\n'] else []) ++ r) = r := by
  by_cases hcs : '\n' ∈ cs
  · rw [if_pos (List.contains_iff_mem.mpr hcs)]
    rfl
  · rw [if_neg (by simpa using hcs), List.nil_append, dropLineEnd]
    all_goals
      rintro r rfl
      have hne := h.resolve_left hcs _ rfl
      simp at hne

theorem escapeChar_head (hc : c ≠ '\n') : ∀ x ∈ (escapeChar true c).head?, x ≠ '\n' ∧ x ≠ '\r' := by
  unfold escapeChar
  repeat' split
  all_goals
    rintro _ ⟨⟩
    try decide
  exact ⟨‹_›, ‹_›⟩

theorem read?_basicLines (cs : List Char) (hrest : ∀ c ∈ rest.head?, c ≠ '"') :
    read? (Style.basicLines.write cs ++ rest) = some (String.ofList cs, rest) := by
  have htext : Style.basicLines.write cs ++ rest = '"' :: '"' :: '"' ::
      ((if cs.contains '\n' then ['\n'] else []) ++
        (escapeText true 0 cs ++ '"' :: '"' :: '"' :: rest)) := by
    simp [Style.write]
  have hstart : '\n' ∈ cs ∨ ∀ c ∈ (escapeText true 0 cs ++ '"' :: '"' :: '"' :: rest).head?,
      c ≠ '\n' ∧ c ≠ '\r' := by
    cases cs with
    | nil => exact .inr fun _ hx => Option.some.inj hx ▸ by decide
    | cons c cs =>
      by_cases hc : c = '\n'
      · exact .inl (hc ▸ List.mem_cons_self)
      refine .inr ?_
      unfold escapeText
      split
      · rename_i hq
        subst hq
        split <;> exact fun _ hx => Option.some.inj hx ▸ by decide
      · obtain ⟨x, t, hx⟩ := List.exists_cons_of_ne_nil (escapeChar_ne_nil true c)
        have hhead := escapeChar_head hc
        rw [hx] at hhead ⊢
        exact hhead
  rw [htext, read?, dropLineEnd_start hstart, basicLinesRaw?_escapeText 0 cs hrest]
  simp [unescape?_escapeText]

theorem read?_literalLines (hcs : cs.any (fun c => isControl c && c != '\n') = false)
    (hrun : longestRun '\'' 0 cs ≤ 2) (hrest : ∀ c ∈ rest.head?, c ≠ '\'') :
    read? (Style.literalLines.write cs ++ rest) = some (String.ofList cs, rest) := by
  have htext : Style.literalLines.write cs ++ rest = '\'' :: '\'' :: '\'' ::
      ((if cs.contains '\n' then ['\n'] else []) ++ (cs ++ '\'' :: '\'' :: '\'' :: rest)) := by
    simp [Style.write]
  have hplain : ∀ c ∈ cs, isPlain c = true ∨ c = '\n' := fun c hc => by
    simpa [isControl_eq, or_iff_not_imp_left] using List.any_eq_false.mp hcs c hc
  have hstart : '\n' ∈ cs ∨ ∀ c ∈ (cs ++ '\'' :: '\'' :: '\'' :: rest).head?,
      c ≠ '\n' ∧ c ≠ '\r' := by
    cases cs with
    | nil => exact .inr fun _ hx => Option.some.inj hx ▸ by decide
    | cons c cs =>
      by_cases hc : c = '\n'
      · exact .inl (hc ▸ List.mem_cons_self)
      have hp := (hplain c List.mem_cons_self).resolve_right hc
      have hr : c ≠ '\r' := fun hr => by
        rw [hr] at hp
        exact absurd hp (by decide)
      exact .inr fun _ hx => Option.some.inj hx ▸ ⟨hc, hr⟩
  have hliteral : literal? true cs = some cs :=
    literal?_eq fun c hc => (hplain c hc).imp_right fun h => ⟨rfl, h⟩
  rw [htext, read?, dropLineEnd_start hstart, literalLinesRaw?_append hrun hrest]
  simp [hliteral]

theorem read?_basic (cs : List Char) (hrest : ∀ c ∈ rest.head?, c ≠ '"') :
    read? (Style.basic.write cs ++ rest) = some (String.ofList cs, rest) := by
  rw [read?_eq_line?, line?_basic]
  intro q r heq
  have htext : '"' :: (escapeText false 0 cs ++ '"' :: rest) = q :: q :: q :: r := by
    simpa [Style.write] using heq
  obtain ⟨rfl, htext⟩ := List.cons.inj htext
  cases hbody : escapeText false 0 cs with
  | nil =>
    rw [hbody] at htext
    exact hrest '"' (by rw [(List.cons.inj htext).2]; rfl) rfl
  | cons x t =>
    have hraw := raw_escapeText 0 cs
    rw [hbody] at hraw htext
    exact hraw.head_ne x rfl (List.cons.inj htext).1

theorem read?_literal (hcs : cs.any isControl = false) (hq : '\'' ∉ cs)
    (hrest : ∀ c ∈ rest.head?, c ≠ '\'') :
    read? (Style.literal.write cs ++ rest) = some (String.ofList cs, rest) := by
  rw [read?_eq_line?, line?_literal hcs hq]
  intro q r heq
  have htext : '\'' :: (cs ++ '\'' :: rest) = q :: q :: q :: r := by
    simpa [Style.write] using heq
  obtain ⟨rfl, htext⟩ := List.cons.inj htext
  cases cs with
  | nil => exact hrest '\'' (by rw [(List.cons.inj htext).2]; rfl) rfl
  | cons x t => exact hq ((List.cons.inj htext).1 ▸ List.mem_cons_self)

/-- A quoted text reads back, with anything but a quote behind it. -/
theorem read?_quote (s : String) (hrest : ∀ c ∈ rest.head?, c ≠ '"' ∧ c ≠ '\'') :
    read? (quote s ++ rest) = some (s, rest) := by
  have hdouble : ∀ c ∈ rest.head?, c ≠ '"' := fun c hc => (hrest c hc).1
  have hsingle : ∀ c ∈ rest.head?, c ≠ '\'' := fun c hc => (hrest c hc).2
  obtain ⟨cs, rfl⟩ : ∃ cs, s = String.ofList cs := ⟨s.toList, s.ofList_toList.symm⟩
  rw [quote, String.toList_ofList]
  unfold Style.ofText
  simp only [Bool.and_eq_true, Bool.not_eq_true', beq_iff_eq, decide_eq_true_eq]
  split
  · exact read?_basic cs hdouble
  split
  · rename_i h
    obtain ⟨⟨hcontrol, hrun⟩, hline⟩ := h
    refine read?_literal (List.any_eq_false.mpr fun c hc h => ?_) (not_mem_of_longestRun hrun)
      hsingle
    have hfeed : c = '\n' := by simpa [h] using List.any_eq_false.mp hcontrol c hc
    rw [List.contains_iff_mem.mpr (hfeed ▸ hc)] at hline
    exact Bool.noConfusion hline
  split
  · exact read?_basicLines cs hdouble
  split
  · rename_i h
    exact read?_literalLines h.1 h.2 hsingle
  split
  · exact read?_basicLines cs hdouble
  · exact read?_basic cs hdouble

end AlarmKeypad.Toml.Quoted
