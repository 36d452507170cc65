import AlarmKeypad.Proofs.Toml.Quoted
import AlarmKeypad.Toml.Statement

namespace AlarmKeypad.Toml

variable {c : Char} {cs r rest : List Char}

theorem isDigit_ne {d : Char} (h : d.isDigit = true) (hc : c.isDigit = false) : d ≠ c :=
  fun heq => Bool.noConfusion ((heq ▸ h).symm.trans hc)

theorem isSpace_eq_false (h : c ≠ ' ') (h' : c ≠ '\t') : isSpace c = false :=
  Bool.or_eq_false_iff.mpr ⟨beq_false_of_ne h, beq_false_of_ne h'⟩

/-! ## Numbers -/

namespace Number

variable {ds : List Char}

theorem after?_of_head (h : ∀ x ∈ r.head?, x ≠ c) : after? c r = none := by
  cases r with
  | nil => rfl
  | cons x r => exact if_neg (h x rfl)

/-- What is read as a number does not reach beyond the digits of the line. -/
theorem le_length_of_natural? {n v : Nat}
    (h : Text.natural? ((ds ++ '\n' :: rest).take n) = some v) : n ≤ ds.length := by
  obtain ⟨⟨-, hall⟩, -⟩ := Option.ite_none_right_eq_some.mp h
  by_contra hlt
  have hmem : '\n' ∈ (ds ++ '\n' :: rest).take n := by
    rw [List.take_append, List.mem_append]
    obtain ⟨m, hm⟩ : ∃ m, n - ds.length = m + 1 := ⟨n - ds.length - 1, by omega⟩
    rw [hm]
    exact .inr List.mem_cons_self
  exact absurd (List.all_eq_true.mp hall _ hmem) (by decide)

/-- Behind some of the digits of a line there is a digit or the end of the line. -/
theorem fixed?_head {n v : Nat} (hds : ∀ d ∈ ds, d.isDigit = true)
    (h : fixed? n (ds ++ '\n' :: rest) = some (v, r)) :
    ∀ x ∈ r.head?, x.isDigit = true ∨ x = '\n' := by
  obtain ⟨w, hw, h⟩ := Option.bind_eq_some_iff.mp h
  obtain ⟨-, h⟩ := Option.ite_none_right_eq_some.mp h
  obtain ⟨-, rfl⟩ := Prod.mk.inj (Option.some.inj h)
  rw [List.drop_append_of_le_length (le_length_of_natural? hw)]
  intro x hx
  cases hdrop : ds.drop n with
  | nil =>
    rw [hdrop] at hx
    exact .inr (Option.some.inj hx).symm
  | cons d t =>
    rw [hdrop] at hx
    obtain rfl := Option.some.inj hx
    exact .inl (hds _ (List.mem_of_mem_drop (hdrop ▸ List.mem_cons_self)))

theorem field?_head {low high v : Nat} (hds : ∀ d ∈ ds, d.isDigit = true)
    (h : field? low high (ds ++ '\n' :: rest) = some (v, r)) :
    ∀ x ∈ r.head?, x.isDigit = true ∨ x = '\n' :=
  fixed?_head hds (Option.filter_eq_some_iff.mp h).1

/-- A line of digits is no date and no time. -/
theorem date?_digits (hds : ∀ d ∈ ds, d.isDigit = true) (rest : List Char) :
    date? (ds ++ '\n' :: rest) = none := by
  have hafter {c : Char} {r : List Char} (hr : ∀ x ∈ r.head?, x.isDigit = true ∨ x = '\n')
      (hc : c.isDigit = false) (hc' : '\n' ≠ c) : after? c r = none :=
    after?_of_head fun x hx => (hr x hx).elim (isDigit_ne · hc) (· ▸ hc')
  have hyear : year? (ds ++ '\n' :: rest) = none := by
    unfold year?
    cases h : fixed? 4 (ds ++ '\n' :: rest) with
    | none => rfl
    | some p => simp [hafter (fixed?_head hds h) (c := '-') (by decide) (by decide)]
  have hhour : hour? (ds ++ '\n' :: rest) = none := by
    unfold hour?
    cases h : field? 0 23 (ds ++ '\n' :: rest) with
    | none => rfl
    | some p => simp [hafter (field?_head hds h) (c := ':') (by decide) (by decide)]
  rw [date?, hyear, hhour]
  rfl

theorem moreDigits?_append (hds : ∀ d ∈ ds, d.isDigit = true) (rest : List Char) :
    moreDigits? Char.isDigit (ds ++ '\n' :: rest) = some (ds, '\n' :: rest) := by
  induction ds with
  | nil => rfl
  | cons d ds ih =>
    obtain ⟨hd, hds⟩ := List.forall_mem_cons.mp hds
    rw [List.cons_append, moreDigits?.eq_4 _ _ _ (fun _ _ h _ => isDigit_ne hd (by decide) h)
      (fun h _ => isDigit_ne hd (by decide) h), if_pos hd, ih hds]
    rfl

theorem whole?_decimal (n : Nat) (rest : List Char) :
    whole? (Text.decimal n ++ '\n' :: rest) = some (Text.decimal n, '\n' :: rest) := by
  obtain ⟨d, ds, hdec⟩ := List.exists_cons_of_ne_nil (Text.decimal_ne_nil n)
  have hall : ∀ x ∈ d :: ds, x.isDigit = true := fun x hx =>
    Text.isDigit_of_mem_decimal (hdec ▸ hx)
  rw [hdec]
  by_cases hd : d = '0'
  · subst hd
    rw [Text.eq_nil_of_decimal_eq_zero_cons hdec]
    rfl
  · obtain ⟨hdigit, hds⟩ := List.forall_mem_cons.mp hall
    rw [List.cons_append, whole?.eq_2 _ (fun r h => hd (List.cons.inj h).1), digits?, if_pos hdigit,
      moreDigits?_append hds]
    rfl

theorem decimal?_decimal {n : Nat} (h : inRange n = true) (rest : List Char) :
    decimal? [] (Text.decimal n ++ '\n' :: rest) = some (.integer n, '\n' :: rest) := by
  have hinteger : integer? n = some (.integer n) := if_pos h
  simp [decimal?, whole?_decimal, fraction?, exponent?, hinteger]

/-- Digits on a line are a decimal number without a sign. -/
theorem read?_digits (hds : ∀ d ∈ ds, d.isDigit = true) (hne : ds ≠ []) (rest : List Char) :
    read? (ds ++ '\n' :: rest) = decimal? [] (ds ++ '\n' :: rest) := by
  obtain ⟨d, ds, rfl⟩ := List.exists_cons_of_ne_nil hne
  obtain ⟨hd, htail⟩ := List.forall_mem_cons.mp hds
  have hfirst {c : Char} {r : List Char} (hc : c.isDigit = false) :
      d :: (ds ++ '\n' :: rest) ≠ c :: r := fun h => isDigit_ne hd hc (List.cons.inj h).1
  have hsecond {b c : Char} {r : List Char} (hc : c.isDigit = false) (hc' : '\n' ≠ c) :
      d :: (ds ++ '\n' :: rest) ≠ b :: c :: r := by
    intro h
    have htext := (List.cons.inj h).2
    cases ds with
    | nil => exact hc' (List.cons.inj htext).1
    | cons x ds =>
      exact isDigit_ne (List.forall_mem_cons.mp htail).1 hc (List.cons.inj htext).1
  unfold read?
  rw [date?_digits hds, List.cons_append]
  dsimp only
  split
  · exact absurd ‹_› (hfirst (by decide))
  · exact absurd ‹_› (hfirst (by decide))
  · exact absurd ‹_› (hsecond (by decide) (by decide))
  · exact absurd ‹_› (hsecond (by decide) (by decide))
  · exact absurd ‹_› (hsecond (by decide) (by decide))
  · unfold unsigned?
    split
    · exact absurd ‹_› (hfirst (by decide))
    · exact absurd ‹_› (hfirst (by decide))
    · rfl

/-- A number on a line reads back, if it is in the range of integers. -/
theorem read?_decimal {n : Nat} (h : inRange n = true) (rest : List Char) :
    read? (Text.decimal n ++ '\n' :: rest) = some (.integer n, '\n' :: rest) := by
  rw [read?_digits (fun _ => Text.isDigit_of_mem_decimal) (Text.decimal_ne_nil n),
    decimal?_decimal h]

end Number

/-! ## Keys -/

theorem dropWhile_of_head {p : Char → Bool} (h : ∀ x ∈ cs.head?, p x = false) :
    cs.dropWhile p = cs := by
  cases cs with
  | nil => rfl
  | cons x cs => exact List.dropWhile_cons_of_neg (by simp [h x rfl])

namespace Key

/-- A written part begins with a character of a bare key or with a quote. -/
theorem write_head (k : String) :
    ∃ c r, write k = c :: r ∧ (isBare c = true ∨ c = '"' ∨ c = '\'') := by
  unfold write
  simp only
  split
  · rename_i h
    obtain ⟨hne, hall⟩ := Bool.and_eq_true_iff.mp h
    cases hk : k.toList with
    | nil =>
      rw [hk] at hne
      exact Bool.noConfusion hne
    | cons c r =>
      rw [hk] at hall
      exact ⟨c, r, rfl, .inl (Bool.and_eq_true_iff.mp hall).1⟩
  split
  · exact ⟨'"', _, rfl, .inr (.inl rfl)⟩
  split
  · exact ⟨'\'', _, rfl, .inr (.inr rfl)⟩
  · exact ⟨'"', _, rfl, .inr (.inl rfl)⟩

theorem span_bare (hcs : ∀ x ∈ cs, isBare x = true) (hrest : ∀ x ∈ rest.head?, isBare x = false) :
    (cs ++ rest).span isBare = (cs, rest) := by
  have hnil : rest.takeWhile isBare = [] := by
    cases rest with
    | nil => rfl
    | cons x rest => exact List.takeWhile_cons_of_neg (by simp [hrest x rfl])
  rw [List.span_eq_takeWhile_dropWhile, List.takeWhile_append_of_pos hcs,
    List.dropWhile_append_of_pos hcs, hnil, dropWhile_of_head hrest, List.append_nil]

/-- A part of a key reads back, up to what no bare key holds. -/
theorem part?_write (k : String) (hrest : ∀ x ∈ rest.head?, isBare x = false) :
    part? (write k ++ rest) = some (k, rest) := by
  obtain ⟨cs, rfl⟩ : ∃ cs, k = String.ofList cs := ⟨k.toList, k.ofList_toList.symm⟩
  have hbasic : part? (Quoted.Style.basic.write cs ++ rest) = some (String.ofList cs, rest) := by
    rw [part?, Quoted.line?_basic]
  unfold write
  simp only [String.toList_ofList]
  split
  · rename_i h
    obtain ⟨hne, hall⟩ := Bool.and_eq_true_iff.mp h
    cases cs with
    | nil => exact Bool.noConfusion hne
    | cons c cs =>
      have hc : isBare c = true := (Bool.and_eq_true_iff.mp hall).1
      have hline : Quoted.line? (c :: cs ++ rest) = none := by
        rw [List.cons_append, Quoted.line?]
        all_goals
          intro r heq
          rw [(List.cons.inj heq).1] at hc
          exact absurd hc (by decide)
      rw [part?, hline, span_bare (List.all_eq_true.mp hall) hrest]
  split
  · exact hbasic
  split
  · rename_i h
    simp only [Bool.and_eq_true, Bool.not_eq_true'] at h
    rw [part?, Quoted.line?_literal h.1 (by simpa using h.2)]
  · exact hbasic

theorem write_head_ne (k : String) (hc : isBare c = false) (hc' : c ≠ '"' ∧ c ≠ '\'')
    (r : List Char) : ∀ x ∈ (write k ++ r).head?, x ≠ c := by
  obtain ⟨d, t, heq, hd⟩ := write_head k
  rw [heq]
  rintro x hx rfl
  obtain rfl := Option.some.inj hx
  rcases hd with hd | hd | hd
  · exact Bool.noConfusion (hd.symm.trans hc)
  · exact hc'.1 hd
  · exact hc'.2 hd

theorem dropWhile_write (k : String) (r : List Char) :
    (write k ++ r).dropWhile isSpace = write k ++ r := by
  exact dropWhile_of_head fun x hx =>
    isSpace_eq_false (write_head_ne k (by decide) (by decide) r x hx)
      (write_head_ne k (by decide) (by decide) r x hx)

theorem writePath_cons (k : String) (ks : List String) :
    ∃ r, writePath (k :: ks) = write k ++ r := by
  cases ks with
  | nil => exact ⟨[], (List.append_nil _).symm⟩
  | cons l ks => exact ⟨_, rfl⟩

/-- A written path reads back, up to what is neither in a bare key nor a further dot. -/
theorem path?_writePath {path : List String} {n : Nat} (hne : path ≠ []) (hn : path.length ≤ n)
    (hrest : ∀ x ∈ rest.head?, isBare x = false)
    (hdot : ∀ x ∈ (rest.dropWhile isSpace).head?, x ≠ '.') :
    path? n (writePath path ++ rest) = some (path, rest.dropWhile isSpace) := by
  induction path generalizing n with
  | nil => exact absurd rfl hne
  | cons k ks ih =>
    obtain ⟨n, rfl⟩ : ∃ m, n = m + 1 := ⟨n - 1, by rw [List.length_cons] at hn; omega⟩
    cases ks with
    | nil =>
      rw [writePath, path?, dropWhile_write, part?_write k hrest]
      simp only [Option.bind_eq_bind, Option.bind_some]
      split
      · rename_i heq
        rw [heq] at hdot
        exact absurd rfl (hdot '.' rfl)
      · rfl
    | cons l ks =>
      have htail := ih (List.cons_ne_nil l ks) (Nat.le_of_succ_le_succ hn)
      have hpart : part? (write k ++ '.' :: (writePath (l :: ks) ++ rest)) = some (k, _) :=
        part?_write k fun x hx => Option.some.inj hx ▸ rfl
      rw [writePath, List.append_assoc, List.cons_append, path?, dropWhile_write, hpart]
      · simp only [Option.bind_eq_bind, Option.bind_some]
        rw [List.dropWhile_cons_of_neg (by decide)]
        simp [htail]
      · exact List.cons_ne_nil l ks

end Key

/-! ## Values -/

/-- A quoted text begins with a quote. -/
theorem quote_head (s : String) : ∃ r, Quoted.quote s = '"' :: r ∨ Quoted.quote s = '\'' :: r := by
  unfold Quoted.quote
  cases Quoted.Style.ofText s.toList
  · exact ⟨_, .inl rfl⟩
  · exact ⟨_, .inr rfl⟩
  · exact ⟨_, .inl rfl⟩
  · exact ⟨_, .inr rfl⟩

theorem value?_quote (n : Nat) (s : String) (rest : List Char) :
    value? n (Quoted.quote s ++ '\n' :: rest) = some (.string s, '\n' :: rest) := by
  have hread : Quoted.read? (Quoted.quote s ++ '\n' :: rest) = some (s, '\n' :: rest) :=
    Quoted.read?_quote s fun x hx => Option.some.inj hx ▸ by decide
  obtain ⟨r, hr | hr⟩ := quote_head s
  all_goals
    rw [hr, List.cons_append] at hread ⊢
    cases n <;> simp only [value?, hread] <;> rfl

theorem value?_decimal (n : Nat) {m : Nat} (h : Number.inRange m = true) (rest : List Char) :
    value? n (Text.decimal m ++ '\n' :: rest) = some (.integer m, '\n' :: rest) := by
  have hread := Number.read?_decimal h rest
  obtain ⟨d, ds, hdec⟩ := List.exists_cons_of_ne_nil (Text.decimal_ne_nil m)
  have hd : d.isDigit = true := Text.isDigit_of_mem_decimal (hdec ▸ List.mem_cons_self)
  rw [hdec, List.cons_append] at hread ⊢
  have hfirst {c : Char} {r : List Char} (hc : c.isDigit = false) :
      d :: (ds ++ '\n' :: rest) ≠ c :: r := fun h => isDigit_ne hd hc (List.cons.inj h).1
  unfold value?
  split
  any_goals exact absurd ‹_› (hfirst (by decide))
  exact hread

/-! ## Lines -/

namespace Statement

variable {s : Statement} {ss : List Statement}

theorem keyValue?_write {value? : List Char → Option (Value × List Char)} {text : List Char}
    {v : Value} (k : String) (hhead : ∀ x ∈ text.head?, isSpace x = false)
    (hvalue : value? (text ++ '\n' :: rest) = some (v, '\n' :: rest)) :
    keyValue? value? (Key.write k ++ ' ' :: '=' :: ' ' :: (text ++ '\n' :: rest)) =
      some (([k], v), '\n' :: rest) := by
  have hpath : Key.path? maxDepth (Key.write k ++ ' ' :: '=' :: ' ' :: (text ++ '\n' :: rest)) =
      some ([k], '=' :: ' ' :: (text ++ '\n' :: rest)) :=
    Key.path?_writePath (List.cons_ne_nil k []) (by rw [List.length_singleton]; decide)
      (fun x hx => Option.some.inj hx ▸ rfl) fun x hx => Option.some.inj hx ▸ by decide
  have hdrop : (' ' :: (text ++ '\n' :: rest)).dropWhile isSpace = text ++ '\n' :: rest := by
    rw [List.dropWhile_cons_of_pos rfl]
    refine dropWhile_of_head fun x hx => ?_
    cases text with
    | nil => exact Option.some.inj hx ▸ rfl
    | cons y text => exact hhead x hx
  simp only [keyValue?, hpath, Option.bind_eq_bind, Option.bind_some, hdrop, hvalue]
  rfl

/-- The line of an assignment. -/
theorem next?_assign {text : List Char} {v : Value} (k : String)
    (hhead : ∀ x ∈ text.head?, isSpace x = false)
    (hvalue : value? maxDepth (text ++ '\n' :: rest) = some (v, '\n' :: rest)) :
    next? (Key.write k ++ ' ' :: '=' :: ' ' :: (text ++ '\n' :: rest)) =
      some (.assign [k] v, rest) := by
  have hbracket := Key.write_head_ne k (c := '[') (by decide) (by decide)
    (' ' :: '=' :: ' ' :: (text ++ '\n' :: rest))
  rw [next?, keyValue?_write k hhead hvalue]
  · rfl
  all_goals
    intro r heq
    rw [heq] at hbracket
    exact hbracket '[' rfl rfl

theorem next?_writeHeader {path : List String} (hne : path ≠ []) (hlen : path.length ≤ maxDepth)
    (rest : List Char) : next? (writeHeader path ++ rest) = some (.header path, rest) := by
  have hpath : Key.path? maxDepth (Key.writePath path ++ ']' :: '\n' :: rest) =
      some (path, ']' :: '\n' :: rest) :=
    Key.path?_writePath hne hlen (fun x hx => Option.some.inj hx ▸ rfl)
      fun x hx => Option.some.inj hx ▸ by decide
  have htext : writeHeader path ++ rest =
      '[' :: (Key.writePath path ++ ']' :: '\n' :: rest) := by
    simp [writeHeader]
  rw [htext, next?, hpath]
  · rfl
  · intro r heq
    obtain ⟨k, ks, rfl⟩ := List.exists_cons_of_ne_nil hne
    obtain ⟨t, ht⟩ := Key.writePath_cons k ks
    rw [ht, List.append_assoc] at heq
    have hbracket := Key.write_head_ne k (c := '[') (by decide) (by decide)
      (t ++ ']' :: '\n' :: rest)
    rw [heq] at hbracket
    exact hbracket '[' rfl rfl

/-- The text is read as the statements. -/
def Scans (cs : List Char) (ss : List Statement) : Prop :=
  ∀ n, cs.length ≤ n → scanLines n cs = some ss

theorem scans_nil : Scans [] [] := fun n _ => by cases n <;> rfl

theorem Scans.blank (h : Scans rest ss) : Scans ('\n' :: rest) ss := by
  intro n hn
  obtain ⟨n, rfl⟩ : ∃ m, n = m + 1 := ⟨n - 1, by rw [List.length_cons] at hn; omega⟩
  exact h n (Nat.le_of_succ_le_succ hn)

/-- One line, and the lines after it. -/
theorem Scans.line {line : List Char} (hne : line ≠ [])
    (hhead : ∀ x ∈ line.head?, isSpace x = false ∧ x ≠ '#' ∧ x ≠ '\n' ∧ x ≠ '\r')
    (hnext : next? (line ++ rest) = some (s, rest)) (h : Scans rest ss) :
    Scans (line ++ rest) (s :: ss) := by
  intro n hn
  obtain ⟨c, r, rfl⟩ := List.exists_cons_of_ne_nil hne
  obtain ⟨n, rfl⟩ : ∃ m, n = m + 1 :=
    ⟨n - 1, by rw [List.cons_append, List.length_cons] at hn; omega⟩
  obtain ⟨hspace, hcomment, hfeed, hreturn⟩ := hhead c rfl
  have hdrop : (c :: r ++ rest).dropWhile isSpace = c :: (r ++ rest) :=
    dropWhile_of_head fun x hx => Option.some.inj hx ▸ hspace
  have hrest : scanLines n rest = some ss :=
    h n (by rw [List.cons_append, List.length_cons, List.length_append] at hn; omega)
  rw [List.cons_append] at hnext
  rw [scanLines, hdrop]
  simp [hcomment, hfeed, hreturn, hnext, hrest]

theorem Scans.header {path : List String} (hne : path ≠ []) (hlen : path.length ≤ maxDepth)
    (h : Scans rest ss) : Scans (writeHeader path ++ rest) (.header path :: ss) :=
  h.line (List.cons_ne_nil _ _) (fun _ hx => Option.some.inj hx ▸ by decide)
    (next?_writeHeader hne hlen rest)

theorem Scans.assign {text : List Char} {v : Value} (k : String)
    (hhead : ∀ x ∈ text.head?, isSpace x = false)
    (hvalue : value? maxDepth (text ++ '\n' :: rest) = some (v, '\n' :: rest))
    (h : Scans rest ss) :
    Scans (Key.write k ++ ' ' :: '=' :: ' ' :: text ++ ['\n'] ++ rest) (.assign [k] v :: ss) := by
  refine h.line (by simp) (fun x hx => ?_) ?_
  · rw [List.append_assoc] at hx
    have hne {c : Char} (hc : Key.isBare c = false) (hc' : c ≠ '"' ∧ c ≠ '\'') : x ≠ c :=
      Key.write_head_ne k hc hc' _ x hx
    exact ⟨isSpace_eq_false (hne (by decide) (by decide)) (hne (by decide) (by decide)),
      hne (by decide) (by decide), hne (by decide) (by decide), hne (by decide) (by decide)⟩
  · simpa using next?_assign k hhead hvalue

theorem Scans.string (k s : String) (h : Scans rest ss) :
    Scans (writeString k s ++ rest) (.assign [k] (.string s) :: ss) := by
  refine h.assign k (fun x hx => ?_) (value?_quote maxDepth s rest)
  obtain ⟨r, hr | hr⟩ := quote_head s
  all_goals
    rw [hr] at hx
    exact Option.some.inj hx ▸ rfl

theorem Scans.natural (k : String) {n : Nat} (hn : Number.inRange n = true) (h : Scans rest ss) :
    Scans (writeNatural k n ++ rest) (.assign [k] (.integer n) :: ss) := by
  refine h.assign k (fun x hx => ?_) (value?_decimal maxDepth hn rest)
  have hx : x.isDigit = true := Text.isDigit_of_mem_decimal (List.mem_of_mem_head? hx)
  exact isSpace_eq_false (isDigit_ne hx (by decide)) (isDigit_ne hx (by decide))

theorem Scans.scan (h : Scans cs ss) (hmark : ∀ x ∈ cs.head?, x ≠ '\ufeff') :
    scan cs = some ss := by
  rw [Statement.scan]
  · exact h _ (Nat.le_refl _)
  · rintro r rfl
    exact hmark '\ufeff' rfl rfl

end Statement

end AlarmKeypad.Toml
