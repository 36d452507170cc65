import AlarmKeypad.Proofs.Json.Writing
import Mathlib.Data.List.TakeWhile

namespace AlarmKeypad.Json

open Token

/-! ## Numerals -/

section
variable {cs r rest : List Char} {ds : List Char}

theorem eq_append_of_digits? (h : Number.digits? cs = some (ds, rest)) :
    cs = ds ++ rest ∧ ds ≠ [] ∧ ∀ d ∈ ds, d.isDigit = true := by
  unfold Number.digits? at h
  rw [List.span_eq_takeWhile_dropWhile] at h
  split at h
  · exact nomatch h
  · rename_i hne
    obtain ⟨rfl, rfl⟩ := Prod.mk.inj (Option.some.inj h)
    exact ⟨List.takeWhile_append_dropWhile.symm, fun hnil => hne _ (Prod.ext hnil rfl),
      fun d hd => List.mem_takeWhile_imp hd⟩

theorem eq_append_of_whole? (h : Number.whole? cs = some (ds, rest)) :
    cs = ds ++ rest ∧ (ds ≠ [] ∧ ∀ d ∈ ds, d.isDigit = true) ∧ ∀ r, ds = '0' :: r → r = [] := by
  unfold Number.whole? at h
  split at h
  · exact nomatch h
  · rename_i hzero
    obtain ⟨hcs, hdigits⟩ := eq_append_of_digits? h
    refine ⟨hcs, hdigits, fun r hr => ?_⟩
    cases r with
    | nil => rfl
    | cons c r => exact absurd (hr ▸ h) (hzero c r rest)

theorem eq_append_of_fraction? {o : Option (List Char)} (h : Number.fraction? cs = some (o, rest)) :
    ∃ fraction : Option Digits, o = fraction.map Subtype.val ∧
      cs = fraction.elim [] (fun ds => '.' :: ds.val) ++ rest := by
  unfold Number.fraction? at h
  split at h
  · obtain ⟨⟨ds, r⟩, hds, heq⟩ := Option.map_eq_some_iff.mp h
    obtain ⟨rfl, rfl⟩ := Prod.mk.inj heq
    obtain ⟨rfl, hdigits⟩ := eq_append_of_digits? hds
    exact ⟨some ⟨ds, hdigits⟩, rfl, rfl⟩
  · obtain ⟨rfl, rfl⟩ := Prod.mk.inj (Option.some.inj h)
    exact ⟨none, rfl, rfl⟩

theorem eq_append_of_exponentDigits? {negative : Bool} {o : Option (Bool × List Char)}
    (h : Number.exponentDigits? negative cs = some (o, rest)) :
    ∃ digits : Digits, o = some (negative, digits.val) ∧ cs = digits.val ++ rest := by
  obtain ⟨⟨ds, r⟩, hds, heq⟩ := Option.map_eq_some_iff.mp h
  obtain ⟨rfl, rfl⟩ := Prod.mk.inj heq
  obtain ⟨rfl, hdigits⟩ := eq_append_of_digits? hds
  exact ⟨⟨ds, hdigits⟩, rfl, rfl⟩

theorem eq_append_of_exponent? {o : Option (Bool × List Char)}
    (h : Number.exponent? cs = some (o, rest)) :
    ∃ exponent : Option Exponent, o = exponent.map Exponent.parts ∧
      cs = exponent.elim [] Exponent.text ++ rest := by
  unfold Number.exponent? at h
  split at h
  case h_7 =>
    obtain ⟨rfl, rfl⟩ := Prod.mk.inj (Option.some.inj h)
    exact ⟨none, rfl, rfl⟩
  all_goals obtain ⟨digits, rfl, rfl⟩ := eq_append_of_exponentDigits? h
  · exact ⟨some ⟨false, some false, digits⟩, rfl, rfl⟩
  · exact ⟨some ⟨true, some false, digits⟩, rfl, rfl⟩
  · exact ⟨some ⟨false, some true, digits⟩, rfl, rfl⟩
  · exact ⟨some ⟨true, some true, digits⟩, rfl, rfl⟩
  · exact ⟨some ⟨false, none, digits⟩, rfl, rfl⟩
  · exact ⟨some ⟨true, none, digits⟩, rfl, rfl⟩

theorem exists_numeral {negative : Bool} {whole r₁ r₂ : List Char} {fraction : Option (List Char)}
    {exponent : Option (Bool × List Char)} (hwhole : Number.whole? r = some (whole, r₁))
    (hfraction : Number.fraction? r₁ = some (fraction, r₂))
    (hexponent : Number.exponent? r₂ = some (exponent, rest)) :
    ∃ n : Numeral, n.parts = ⟨negative, whole, fraction, exponent⟩ ∧
      (if negative then ['-'] else []) ++ r = n.text ++ rest := by
  obtain ⟨rfl, hdigits, hzero⟩ := eq_append_of_whole? hwhole
  obtain ⟨f, rfl, rfl⟩ := eq_append_of_fraction? hfraction
  obtain ⟨e, rfl, rfl⟩ := eq_append_of_exponent? hexponent
  refine ⟨⟨negative, ⟨whole, hdigits⟩, f, e, hzero⟩, rfl, ?_⟩
  rw [Numeral.text_append]

/-- Whatever is read as a numeral is one. -/
theorem eq_append_of_parts? {p : Number.Parts} (h : Number.parts? cs = some (p, rest)) :
    ∃ n : Numeral, n.parts = p ∧ cs = n.text ++ rest := by
  unfold Number.parts? at h
  split at h
  rename_i negative r heq
  simp only [Option.bind_eq_bind, Option.bind_eq_some_iff] at h
  obtain ⟨⟨whole, r₁⟩, hwhole, ⟨fraction, r₂⟩, hfraction, ⟨exponent, r₃⟩, hexponent, h⟩ := h
  obtain ⟨rfl, rfl⟩ := Prod.mk.inj (Option.some.inj h)
  obtain ⟨n, hn, htext⟩ := exists_numeral hwhole hfraction hexponent
  refine ⟨n, hn, ?_⟩
  rw [← htext]
  -- only a minus sign in front is told apart
  split at heq
  all_goals
    obtain ⟨rfl, rfl⟩ := Prod.mk.inj heq
    rfl

end

/-! ## Strings -/

section
variable {cs r rest : List Char} {us : List StringUnit}

theorem mem_of_escape? {c x : Char} (h : escape? c = some x) :
    c ∈ ['"', '\\', '/', 'b', 'f', 'n', 'r', 't'] := by
  by_contra hc
  simp only [List.mem_cons, List.not_mem_nil, or_false, not_or] at hc
  obtain ⟨h1, h2, h3, h4, h5, h6, h7, h8⟩ := hc
  simp [escape?, h1, h2, h3, h4, h5, h6, h7, h8] at h

/-- Whatever is read as the rest of a string is one. -/
theorem eq_append_of_units? (h : units? cs = some (us, rest)) :
    ∃ ps : List Piece, ps.map Piece.unit = us ∧ cs = piecesText ps ++ rest := by
  induction cs using units?.induct generalizing us with
  | case1 => cases h
  | case2 r =>
    obtain ⟨rfl, rfl⟩ := Prod.mk.inj (Option.some.inj h)
    exact ⟨[], rfl, rfl⟩
  | case3 a b c d r ih =>
    simp only [units?, Option.bind_eq_bind, Option.bind_eq_some_iff] at h
    obtain ⟨n, hn, ⟨us, r⟩, hus, h⟩ := h
    obtain ⟨rfl, rfl⟩ := Prod.mk.inj (Option.some.inj h)
    obtain ⟨ps, rfl, rfl⟩ := ih hus
    refine ⟨.word a b c d (isSome_of_word? hn) :: ps, ?_, ?_⟩
    · rw [List.map_cons, Piece.unit, hn]
      rfl
    · rw [piecesText_cons]
      rfl
  | case4 c r hword ih =>
    rw [units?.eq_4 _ _ hword] at h
    simp only [Option.bind_eq_bind, Option.bind_eq_some_iff] at h
    obtain ⟨x, hx, ⟨us, r⟩, hus, h⟩ := h
    obtain ⟨rfl, rfl⟩ := Prod.mk.inj (Option.some.inj h)
    obtain ⟨ps, rfl, rfl⟩ := ih hus
    refine ⟨.escape c (mem_of_escape? hx) :: ps, ?_, ?_⟩
    · rw [List.map_cons, Piece.unit, hx]
      rfl
    · rw [piecesText_cons]
      rfl
  | case5 c r hquote hword hescape hbad ih =>
    rw [units?.eq_5 _ _ hquote hword hescape, if_pos hbad] at h
    cases h
  | case6 c r hquote hword hescape hplain ih =>
    rw [units?.eq_5 _ _ hquote hword hescape, if_neg hplain] at h
    simp only [Option.bind_eq_bind, Option.bind_eq_some_iff] at h
    obtain ⟨⟨us, r⟩, hus, h⟩ := h
    obtain ⟨rfl, rfl⟩ := Prod.mk.inj (Option.some.inj h)
    obtain ⟨ps, rfl, rfl⟩ := ih hus
    rw [not_or, Nat.not_lt] at hplain
    refine ⟨.char c ⟨hplain.1, hquote, hplain.2⟩ :: ps, rfl, ?_⟩
    rw [piecesText_cons]
    rfl

theorem eq_append_of_string? {t : Token} (h : string? cs = some (t, rest)) :
    ∃ ps s, string?OfPieces ps = some s ∧ t = .string s ∧ cs = piecesText ps ++ rest := by
  simp only [string?, Option.bind_eq_bind, Option.bind_eq_some_iff] at h
  obtain ⟨⟨us, r⟩, hus, xs, hxs, h⟩ := h
  obtain ⟨rfl, rfl⟩ := Prod.mk.inj (Option.some.inj h)
  obtain ⟨ps, rfl, rfl⟩ := eq_append_of_units? hus
  exact ⟨ps, _, by rw [string?OfPieces, hxs, Option.map_some], rfl, rfl⟩

end

/-! ## Tokens -/

section
variable {cs r rest : List Char} {t : Token} {ts : List Token}

/-- What a token is written as. -/
def Lexeme : Token → List Char → Prop
  | .beginObject, l => l = ['\x7b']
  | .endObject, l => l = ['\x7d']
  | .beginArray, l => l = ['[']
  | .endArray, l => l = [']']
  | .comma, l => l = [',']
  | .colon, l => l = [':']
  | .null, l => l = ['n', 'u', 'l', 'l']
  | .bool true, l => l = ['t', 'r', 'u', 'e']
  | .bool false, l => l = ['f', 'a', 'l', 's', 'e']
  | .int i, l => ∃ n : Numeral, Number.value? n.parts = some (.int i) ∧ l = n.text
  | .float x, l => ∃ n : Numeral, Number.value? n.parts = some (.float x) ∧ l = n.text
  | .string s, l => ∃ ps, string?OfPieces ps = some s ∧ l = '"' :: piecesText ps

theorem lexeme_of_number? (h : number? cs = some (t, rest)) : ∃ l, Lexeme t l ∧ cs = l ++ rest := by
  simp only [number?, Option.bind_eq_bind, Option.bind_eq_some_iff] at h
  obtain ⟨⟨p, r⟩, hp, v, hv, h⟩ := h
  obtain ⟨n, rfl, rfl⟩ := eq_append_of_parts? hp
  obtain ⟨i, rfl⟩ | ⟨x, rfl⟩ := value?_eq_int_or_float hv
  · obtain ⟨rfl, rfl⟩ := Prod.mk.inj (Option.some.inj h)
    exact ⟨_, ⟨n, hv, rfl⟩, rfl⟩
  · obtain ⟨rfl, rfl⟩ := Prod.mk.inj (Option.some.inj h)
    exact ⟨_, ⟨n, hv, rfl⟩, rfl⟩

theorem lexeme_of_next? (h : next? cs = some (t, rest)) : ∃ l, Lexeme t l ∧ cs = l ++ rest := by
  unfold next? at h
  split at h
  case h_10 =>
    obtain ⟨ps, s, hs, rfl, rfl⟩ := eq_append_of_string? h
    exact ⟨_, ⟨ps, hs, rfl⟩, rfl⟩
  case h_11 => exact lexeme_of_number? h
  all_goals
    obtain ⟨rfl, rfl⟩ := Prod.mk.inj (Option.some.inj h)
    exact ⟨_, rfl, rfl⟩

/-- The text is cut into the tokens in some number of steps. -/
def Scanned (cs : List Char) (ts : List Token) : Prop := ∃ fuel, scanWithin fuel cs = some ts

def NoBlank (cs : List Char) : Prop := ∀ c ∈ cs.head?, isSpace c = false

/-- The blanks in front of a text, and the rest. -/
theorem Scanned.split (h : Scanned cs ts) :
    ∃ (b : Blank) (rest : List Char), cs = b.val ++ rest ∧ NoBlank rest ∧ Scanned rest ts := by
  obtain ⟨fuel, h⟩ := h
  have hb : ∀ c ∈ cs.takeWhile isSpace, isSpace c = true := fun c hc => List.mem_takeWhile_imp hc
  have hsplit : cs = cs.takeWhile isSpace ++ cs.dropWhile isSpace :=
    List.takeWhile_append_dropWhile.symm
  refine ⟨⟨_, hb⟩, cs.dropWhile isSpace, hsplit, ?_, fuel, ?_⟩
  · intro c hc
    have hhead := List.head?_dropWhile_not isSpace cs
    rw [hc] at hhead
    simpa using hhead
  · rw [hsplit] at h
    exact (scanWithin_blanks ⟨_, hb⟩).symm.trans h

/-- A text that does not begin with a blank begins with a token. -/
theorem Scanned.next {c : Char} (h : Scanned (c :: r) ts) (hc : isSpace c = false) :
    ∃ l t rest us, Lexeme t l ∧ c :: r = l ++ rest ∧ ts = t :: us ∧ Scanned rest us := by
  obtain ⟨fuel, h⟩ := h
  have hdrop : (c :: r).dropWhile isSpace = c :: r := List.dropWhile_cons_of_neg (by simp [hc])
  unfold scanWithin at h
  rw [hdrop] at h
  cases fuel with
  | zero => cases h
  | succ fuel =>
    simp only [Option.bind_eq_bind, Option.bind_eq_some_iff] at h
    obtain ⟨⟨t, rest⟩, hnext, us, hus, h⟩ := h
    obtain ⟨l, hl, heq⟩ := lexeme_of_next? hnext
    exact ⟨l, t, rest, us, hl, heq, (Option.some.inj h).symm, fuel, hus⟩

theorem Scanned.nil (h : Scanned cs []) (hc : NoBlank cs) : cs = [] := by
  cases cs with
  | nil => rfl
  | cons c r =>
    obtain ⟨l, t, rest, us, -, -, hts, -⟩ := h.next (hc c rfl)
    exact nomatch hts

theorem Scanned.cons (h : Scanned cs (t :: ts)) (hc : NoBlank cs) :
    ∃ l rest, Lexeme t l ∧ cs = l ++ rest ∧ Scanned rest ts := by
  cases cs with
  | nil =>
    obtain ⟨fuel, h⟩ := h
    have hnil : scanWithin fuel [] = some [] := cuts_nil fuel (Nat.zero_le _)
    rw [hnil] at h
    exact nomatch h
  | cons c r =>
    obtain ⟨l, u, rest, us, hl, heq, hts, hrest⟩ := h.next (hc c rfl)
    obtain ⟨rfl, rfl⟩ := List.cons.inj hts
    exact ⟨l, rest, hl, heq, hrest⟩

/-! ## Values -/

/-- Wherever the tokens of a value come first, a writing of the value does, with the blanks around
it. -/
def WrittenBefore (v : Value) : Prop :=
  ∀ cs ts, Scanned cs (v.tokens ++ ts) →
    ∃ (w : Writing) (rest : List Char),
      cs = w.text ++ rest ∧ NoBlank rest ∧ w.value? = some v ∧ Scanned rest ts

/-- A value that is written between blanks. -/
theorem exists_spaced {v : Value} {us : List Token} (hcs : Scanned cs us)
    (h : ∀ r, NoBlank r → Scanned r us → ∃ (w : Writing) (rest : List Char),
      r = w.text ++ rest ∧ w.value? = some v ∧ Scanned rest ts) :
    ∃ (w : Writing) (rest : List Char),
      cs = w.text ++ rest ∧ NoBlank rest ∧ w.value? = some v ∧ Scanned rest ts := by
  obtain ⟨b, r, rfl, hr, hscan⟩ := hcs.split
  obtain ⟨w, rest, rfl, hw, hrest⟩ := h r hr hscan
  obtain ⟨a, rest, rfl, hblank, hrest⟩ := hrest.split
  refine ⟨.spaced b w a, rest, ?_, hblank, hw, hrest⟩
  simp only [Writing.text, List.append_assoc]

/-- The items after the first, up to the end of the array. -/
theorem exists_items {items : List Value} (hi : ∀ v ∈ items, WrittenBefore v) (hc : NoBlank cs)
    (h : Scanned cs (Value.itemTokens items ++ .endArray :: ts)) :
    ∃ (ws : List Writing) (rest : List Char), cs = Writing.itemsText ws ++ ']' :: rest ∧
      Writing.itemValues? ws = some items ∧ Scanned rest ts := by
  induction items generalizing cs with
  | nil =>
    obtain ⟨_, rest, rfl, rfl, hrest⟩ := h.cons hc
    exact ⟨[], rest, rfl, rfl, hrest⟩
  | cons v items ih =>
    rw [Value.itemTokens, List.cons_append, List.cons_append, List.append_assoc] at h
    obtain ⟨_, r, rfl, rfl, hfirst⟩ := h.cons hc
    obtain ⟨w, r, rfl, hblank, hw, hitems⟩ := hi v List.mem_cons_self _ _ hfirst
    obtain ⟨ws, rest, rfl, hws, hrest⟩ :=
      ih (fun x hx => hi x (List.mem_cons_of_mem _ hx)) hblank hitems
    refine ⟨w :: ws, rest, ?_, ?_, hrest⟩
    · simp only [Writing.itemsText, List.append_assoc, List.cons_append, List.nil_append]
    · rw [Writing.itemValues?, hw, hws]
      rfl

/-- A key and the colon behind it. -/
theorem exists_key {k : String} (h : Scanned cs (.string k :: .colon :: ts)) :
    ∃ (key : Key) (rest : List Char),
      cs = key.text ++ ':' :: rest ∧ key.string? = some k ∧ Scanned rest ts := by
  obtain ⟨b, r, rfl, hb, hquote⟩ := h.split
  obtain ⟨_, r, ⟨ps, hps, rfl⟩, rfl, hafter⟩ := hquote.cons hb
  obtain ⟨a, r, rfl, ha, hcolon⟩ := hafter.split
  obtain ⟨_, rest, rfl, rfl, hrest⟩ := hcolon.cons ha
  refine ⟨⟨b, ps, a⟩, rest, ?_, hps, hrest⟩
  simp only [Key.text, List.append_assoc, List.cons_append, List.nil_append]

theorem exists_members {members : List Member} (hm : ∀ m ∈ members, WrittenBefore m.2)
    (hc : NoBlank cs) (h : Scanned cs (Value.memberTokens members ++ .endObject :: ts)) :
    ∃ (ms : List (Key × Writing)) (rest : List Char),
      cs = Writing.membersText ms ++ '\x7d' :: rest ∧
        Writing.memberValues? ms = some members ∧ Scanned rest ts := by
  induction members generalizing cs with
  | nil =>
    obtain ⟨_, rest, rfl, rfl, hrest⟩ := h.cons hc
    exact ⟨[], rest, rfl, rfl, hrest⟩
  | cons m members ih =>
    obtain ⟨k, v⟩ := m
    rw [Value.memberTokens, List.cons_append, List.cons_append, List.cons_append, List.cons_append,
      List.cons_append, List.cons_append, List.append_assoc] at h
    obtain ⟨_, r, rfl, rfl, hfirst⟩ := h.cons hc
    obtain ⟨key, r, rfl, hkey, hvalue⟩ := exists_key hfirst
    obtain ⟨w, r, rfl, hblank, hw, hmembers⟩ := hm (k, v) List.mem_cons_self _ _ hvalue
    obtain ⟨ms, rest, rfl, hms, hrest⟩ :=
      ih (fun x hx => hm x (List.mem_cons_of_mem _ hx)) hblank hmembers
    refine ⟨(key, w) :: ms, rest, ?_, ?_, hrest⟩
    · simp only [Writing.membersText, List.append_assoc, List.cons_append, List.nil_append]
    · rw [Writing.memberValues?, hkey, hw, hms]
      rfl

theorem writtenBefore_array {items : List Value} (hi : ∀ v ∈ items, WrittenBefore v) :
    WrittenBefore (.array items) := by
  intro cs ts h
  refine exists_spaced h fun r hr h => ?_
  cases items with
  | nil =>
    obtain ⟨_, r, rfl, rfl, hinner⟩ := h.cons hr
    obtain ⟨b, r, rfl, hb, hend⟩ := hinner.split
    obtain ⟨_, rest, rfl, rfl, hrest⟩ := hend.cons hb
    refine ⟨.array b [], rest, ?_, rfl, hrest⟩
    simp only [Writing.text, List.append_assoc, List.cons_append, List.nil_append]
  | cons v items =>
    rw [Value.tokens, List.cons_append, List.cons_append, List.cons_append, List.append_assoc,
      List.append_assoc] at h
    obtain ⟨_, r, rfl, rfl, hfirst⟩ := h.cons hr
    obtain ⟨w, r, rfl, hblank, hw, hitems⟩ := hi v List.mem_cons_self _ _ hfirst
    obtain ⟨ws, rest, rfl, hws, hrest⟩ :=
      exists_items (fun x hx => hi x (List.mem_cons_of_mem _ hx)) hblank hitems
    refine ⟨.array .none (w :: ws), rest, ?_, ?_, hrest⟩
    · simp only [Writing.text, Blank.none, List.append_assoc, List.cons_append, List.nil_append]
    · rw [Writing.value?, Writing.itemValues?, hw, hws]
      rfl

theorem writtenBefore_object {members : List Member} (hm : ∀ m ∈ members, WrittenBefore m.2) :
    WrittenBefore (.object members) := by
  intro cs ts h
  refine exists_spaced h fun r hr h => ?_
  cases members with
  | nil =>
    obtain ⟨_, r, rfl, rfl, hinner⟩ := h.cons hr
    obtain ⟨b, r, rfl, hb, hend⟩ := hinner.split
    obtain ⟨_, rest, rfl, rfl, hrest⟩ := hend.cons hb
    refine ⟨.object b [], rest, ?_, rfl, hrest⟩
    simp only [Writing.text, List.append_assoc, List.cons_append, List.nil_append]
  | cons m members =>
    obtain ⟨k, v⟩ := m
    have hsplit : (Value.object ((k, v) :: members)).tokens ++ ts = .beginObject ::
        .string k :: .colon :: (v.tokens ++
          (Value.memberTokens members ++ .endObject :: ts)) := by
      simp only [Value.tokens, List.append_assoc, List.cons_append, List.nil_append]
    rw [hsplit] at h
    obtain ⟨_, r, rfl, rfl, hfirst⟩ := h.cons hr
    obtain ⟨key, r, rfl, hkey, hvalue⟩ := exists_key hfirst
    obtain ⟨w, r, rfl, hblank, hw, hmembers⟩ := hm (k, v) List.mem_cons_self _ _ hvalue
    obtain ⟨ms, rest, rfl, hms, hrest⟩ :=
      exists_members (fun x hx => hm x (List.mem_cons_of_mem _ hx)) hblank hmembers
    refine ⟨.object .none ((key, w) :: ms), rest, ?_, ?_, hrest⟩
    · simp only [Writing.text, Blank.none, List.append_assoc, List.cons_append, List.nil_append]
    · rw [Writing.value?, Writing.memberValues?, hkey, hw, hms]
      rfl

/-- A value of one token. -/
theorem writtenBefore_of_lexeme {v : Value} {t : Token} (hv : v.tokens = [t])
    (h : ∀ l, Lexeme t l → ∃ w : Writing, w.text = l ∧ w.value? = some v) : WrittenBefore v := by
  intro cs ts hcs
  refine exists_spaced hcs fun r hr hscan => ?_
  rw [hv] at hscan
  obtain ⟨l, rest, hl, rfl, hrest⟩ := hscan.cons hr
  obtain ⟨w, rfl, hw⟩ := h l hl
  exact ⟨w, rest, rfl, hw, hrest⟩

theorem writtenBefore (v : Value) : WrittenBefore v := by
  induction v using Value.induct with
  | null =>
    refine writtenBefore_of_lexeme rfl fun l hl => ?_
    exact ⟨.null, Eq.symm hl, rfl⟩
  | bool b =>
    refine writtenBefore_of_lexeme rfl fun l hl => ?_
    cases b with
    | true => exact ⟨.bool true, Eq.symm hl, rfl⟩
    | false => exact ⟨.bool false, Eq.symm hl, rfl⟩
  | int i =>
    refine writtenBefore_of_lexeme rfl fun l hl => ?_
    obtain ⟨n, hn, rfl⟩ := hl
    exact ⟨.number n, rfl, hn⟩
  | float x =>
    refine writtenBefore_of_lexeme rfl fun l hl => ?_
    obtain ⟨n, hn, rfl⟩ := hl
    exact ⟨.number n, rfl, hn⟩
  | string s =>
    refine writtenBefore_of_lexeme rfl fun l hl => ?_
    obtain ⟨ps, hps, rfl⟩ := hl
    exact ⟨.string ps, rfl, by rw [Writing.value?, hps, Option.map_some]⟩
  | array items ih => exact writtenBefore_array ih
  | object members ih => exact writtenBefore_object ih

/-- The texts that are read are those by the grammar that stand for a value, which is not nested too
deep. -/
theorem parse?_eq_some_iff {v : Value} : Value.parse? cs = some v ↔
    v.Within Reader.maxDepth ∧ ∃ w : Writing, cs = w.text ∧ w.value? = some v := by
  constructor
  · intro h
    obtain ⟨ts, hts, hv⟩ := Option.bind_eq_some_iff.mp h
    obtain rfl := Value.eq_tokens_of_ofTokens? hv
    have hscan : Scanned cs (v.tokens ++ []) := ⟨_, by rw [List.append_nil]; exact hts⟩
    obtain ⟨w, rest, rfl, hblank, hw, hrest⟩ := writtenBefore v cs [] hscan
    obtain rfl := hrest.nil hblank
    exact ⟨Value.within_of_parse? h, w, List.append_nil _, hw⟩
  · rintro ⟨hd, w, rfl, hw⟩
    exact (parse?_text w).mpr ⟨hw, hd⟩

/-- An object stands between blanks. -/
theorem exists_object_of_value? {w : Writing} {xs : List Member}
    (h : w.value? = some (.object xs)) : ∃ (b : Blank) (inner : Blank)
      (ms : List (Key × Writing)) (a : Blank),
      w.text = b.val ++ (Writing.object inner ms).text ++ a.val := by
  induction w using Writing.induct with
  | object inner ms _ =>
    exact ⟨.none, inner, ms, .none, (List.append_nil _).symm⟩
  | spaced b w a ih =>
    obtain ⟨b', inner, ms, a', hw⟩ := ih h
    refine ⟨⟨b.val ++ b'.val, List.forall_mem_append.mpr ⟨b.property, b'.property⟩⟩, inner, ms,
      ⟨a'.val ++ a.val, List.forall_mem_append.mpr ⟨a'.property, a.property⟩⟩, ?_⟩
    rw [Writing.text, hw]
    simp only [List.append_assoc]
  | number n => obtain ⟨i, hi⟩ | ⟨x, hx⟩ := value?_eq_int_or_float h <;> contradiction
  | string ps =>
    obtain ⟨s, -, hs⟩ := Option.map_eq_some_iff.mp h
    cases hs
  | array b items _ =>
    obtain ⟨vs, -, hvs⟩ := Option.map_eq_some_iff.mp h
    cases hvs
  | _ => cases h

end

end AlarmKeypad.Json
