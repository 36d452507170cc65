import AlarmKeypad.Proofs.Text.Blank
import AlarmKeypad.Proofs.Text.Numeral
import AlarmKeypad.Proofs.Text.Utf8
import AlarmKeypad.Url

namespace AlarmKeypad.Url

variable {cs ds user rest scheme : List Char} {names : List Char × List Char} {port : Nat}
  {inside atEnd hasUser : Bool} {a : Authority}

theorem exists_of_bind_eq_ok {ε α β : Type} {x : Except ε α} {f : α → Except ε β} {b : β}
    (h : x >>= f = .ok b) : ∃ y, x = .ok y ∧ f y = .ok b := by
  cases x with
  | error e => exact nomatch h
  | ok y => exact ⟨y, rfl, h⟩

/-- An authority without its user. -/
def unnamed (cs : List Char) : List Char := (splitUser cs).elim cs Prod.snd

theorem splitUser_eq_none_iff : splitUser cs = none ↔ '@' ∉ cs := by
  simp [splitUser]

theorem splitUser_append_cons (h : '@' ∉ rest) (user : List Char) :
    splitUser (user ++ '@' :: rest) = some (user, rest) := by
  have hall : ∀ c ∈ rest.reverse, decide (c ≠ '@') = true := by
    intro c hc
    rw [decide_eq_true_eq]
    rintro rfl
    exact h (List.mem_reverse.mp hc)
  -- read from its end, an authority begins with what stands behind its last at sign
  have hrest : ((user ++ '@' :: rest).reverse.takeWhile (· ≠ '@')).reverse = rest := by
    rw [List.reverse_append, List.reverse_cons, List.append_assoc,
      List.takeWhile_append_of_pos hall]
    simp
  have hlen : (user ++ '@' :: rest).length - rest.length - 1 = user.length := by
    rw [List.length_append, List.length_cons]
    omega
  simp only [splitUser, hrest, hlen, List.take_left']
  exact if_pos (by simp)

theorem splitUser_eq_some_iff :
    splitUser cs = some (user, rest) ↔ cs = user ++ '@' :: rest ∧ '@' ∉ rest := by
  constructor
  · intro h
    by_cases hmem : '@' ∈ cs
    -- the last at sign of the text is the first of the reversed one
    · obtain ⟨rest', user', hcs, hrest⟩ := List.eq_append_cons_of_mem (List.mem_reverse.mpr hmem)
      obtain rfl : cs = user'.reverse ++ '@' :: rest'.reverse := by
        simpa using congrArg List.reverse hcs
      rw [splitUser_append_cons (by simpa using hrest)] at h
      obtain ⟨rfl, rfl⟩ := Prod.mk.inj (Option.some.inj h)
      exact ⟨rfl, by simpa using hrest⟩
    · rw [splitUser_eq_none_iff.mpr hmem] at h
      exact nomatch h
  · rintro ⟨rfl, h⟩
    exact splitUser_append_cons h user

/-- What is put behind an authority is no part of its user. -/
theorem splitUser_append (h : '@' ∉ ds) (cs : List Char) :
    splitUser (cs ++ ds) = (splitUser cs).map fun (user, rest) => (user, rest ++ ds) := by
  cases hcs : splitUser cs with
  | none =>
    rw [splitUser_eq_none_iff] at hcs
    exact splitUser_eq_none_iff.mpr (by simp [hcs, h])
  | some w =>
    obtain ⟨user, rest⟩ := w
    obtain ⟨rfl, hrest⟩ := splitUser_eq_some_iff.mp hcs
    rw [List.append_assoc, List.cons_append, splitUser_append_cons (by simp [hrest, h])]
    rfl

theorem unnamed_append (h : '@' ∉ ds) (cs : List Char) :
    unnamed (cs ++ ds) = unnamed cs ++ ds := by
  rw [unnamed, unnamed, splitUser_append h]
  cases splitUser cs <;> rfl

theorem encode_eq_nil_iff {set : Char → Bool} : Percent.encode set cs = [] ↔ cs = [] := by
  have hchar (c : Char) : Percent.encodeChar set c ≠ [] := by
    unfold Percent.encodeChar
    split
    · obtain ⟨b, bs, hcons⟩ := List.exists_cons_of_ne_nil (Text.Utf8.encodeChar_ne_nil c)
      simp [hcons, Percent.encodeByte]
    · simp
  cases cs with
  | nil => simp [Percent.encode]
  | cons c cs => simp [Percent.encode, hchar]

/-- Only nothing and a colon alone name nobody. -/
theorem userOf_eq_nil_iff : userOf user = ([], []) ↔ user = [] ∨ user = [':'] := by
  simp only [userOf, Prod.mk.injEq, encode_eq_nil_iff]
  cases h : Text.splitOnce ':' user with
  | none =>
    rw [Text.splitOnce_eq_none_iff] at h
    have hne : user ≠ [':'] := by
      rintro rfl
      exact h List.mem_cons_self
    simp [hne]
  | some w =>
    obtain ⟨name, password⟩ := w
    obtain ⟨rfl, -⟩ := Text.splitOnce_eq_some_iff.mp h
    simp [List.append_eq_singleton_iff]

/-- Whether a square bracket is open behind a text. -/
def bracketOpen (inside : Bool) (cs : List Char) : Bool :=
  cs.foldl (fun inside c => if c = '[' then true else if c = ']' then false else inside) inside

theorem bracketOpen_of_notMem (h : '[' ∉ cs) : bracketOpen false cs = false := by
  induction cs with
  | nil => rfl
  | cons c cs ih =>
    obtain ⟨hc, hcs⟩ := List.ne_and_not_mem_of_not_mem_cons h
    have hstep : (if c = '[' then true else if c = ']' then false else false) = false := by
      simp [hc.symm]
    rw [bracketOpen, List.foldl_cons, hstep]
    exact ih hcs

/-- A port takes all that is put behind it. -/
theorem splitPort_append_of_some (h : (splitPort inside cs).2 = some ds) (rest : List Char) :
    (splitPort inside (cs ++ rest)).2 = some (ds ++ rest) := by
  induction cs generalizing inside with
  | nil => exact nomatch h
  | cons c cs ih =>
    rw [List.cons_append, splitPort]
    rw [splitPort] at h
    split at h
    · rename_i hc
      rw [if_pos hc]
      exact congrArg (fun o => o.map (· ++ rest)) h
    · rename_i hc
      rw [if_neg hc]
      exact ih h

/-- Without a port, only an open bracket keeps what is put behind from being one. -/
theorem splitPort_append_of_none (h : (splitPort inside cs).2 = none) (rest : List Char) :
    (splitPort inside (cs ++ rest)).2 = (splitPort (bracketOpen inside cs) rest).2 := by
  induction cs generalizing inside with
  | nil => rfl
  | cons c cs ih =>
    rw [List.cons_append, splitPort]
    rw [splitPort] at h
    split at h
    · exact nomatch h
    · rename_i hc
      rw [if_neg hc]
      exact ih h

theorem splitPort_of_notMem (h : ':' ∉ cs) (inside : Bool) : (splitPort inside cs).2 = none := by
  induction cs generalizing inside with
  | nil => rfl
  | cons c cs ih =>
    obtain ⟨hc, hcs⟩ := List.ne_and_not_mem_of_not_mem_cons h
    rw [splitPort, if_neg fun hcolon => hc hcolon.1.symm]
    exact ih hcs _

theorem parsePort_ok {read : Option Nat} (h : parsePort scheme cs = .ok read)
    (hport : schemePort? scheme = some port) :
    cs = [] ∧ read = none ∨ ∃ n, Text.natural? cs = some n ∧ (read <|> some port) = some n := by
  unfold parsePort at h
  split at h
  · rename_i hcs
    exact .inl ⟨hcs, (Except.ok.inj h).symm⟩
  · split at h
    · exact nomatch h
    · rename_i n hn
      refine .inr ⟨n, (Option.filter_eq_some_iff.mp hn).1, ?_⟩
      rw [hport] at h
      obtain rfl := Except.ok.inj h
      by_cases heq : port = n <;> simp [heq]

theorem hostOf_ok (h : hostOf scheme names hasUser cs = .ok a) :
    (a.username, a.password) = names ∧
      parsePort scheme ((splitPort false cs).2.getD []) = .ok a.port := by
  simp only [hostOf] at h
  split at h
  · exact nomatch h
  -- a host of either kind, and then the port
  split at h
  all_goals
    obtain ⟨host, -, h⟩ := exists_of_bind_eq_ok h
    obtain ⟨read, hread, h⟩ := exists_of_bind_eq_ok h
    obtain rfl := Except.ok.inj h
    exact ⟨rfl, hread⟩

/-- The user and the port of an authority stand in two parts of it. -/
theorem parseAuthority_ok (h : parseAuthority scheme cs atEnd = .ok a) :
    (a.username, a.password) = (splitUser cs).elim ([], []) (userOf ·.1) ∧
      parsePort scheme ((splitPort false (unnamed cs)).2.getD []) = .ok a.port := by
  unfold parseAuthority at h
  cases hcs : splitUser cs with
  | none =>
    rw [hcs] at h
    rw [unnamed, hcs]
    exact hostOf_ok h
  | some w =>
    obtain ⟨user, rest⟩ := w
    simp only [hcs] at h
    rw [unnamed, hcs]
    split at h
    · exact nomatch h
    · exact hostOf_ok h

/-- An authority that begins with a port has no host. -/
theorem parseAuthority_colon (hspecial : (kindOf scheme).isSpecial = true) (h : '@' ∉ cs) :
    parseAuthority scheme (':' :: cs) atEnd = .error .emptyHost := by
  have huser : splitUser (':' :: cs) = none := splitUser_eq_none_iff.mpr (by simp [h])
  have hcut : splitPort false (':' :: cs) = ([], some cs) := rfl
  simp only [parseAuthority, huser, hostOf, hcut, hspecial]
  rfl

/-- No user is read exactly if nothing stands in front of the last at sign, or a colon alone. -/
theorem anonymous_iff (h : parseAuthority scheme cs atEnd = .ok a) :
    a.username = [] ∧ a.password = [] ↔ ∀ w ∈ splitUser cs, w.1 = [] ∨ w.1 = [':'] := by
  rw [← Prod.mk.injEq, (parseAuthority_ok h).1]
  cases splitUser cs <;> simp [userOf_eq_nil_iff]

/-- The scheme's own port is used exactly if no other is written. -/
theorem ownPort_iff (h : parseAuthority scheme cs atEnd = .ok a)
    (hport : schemePort? scheme = some port) : (a.port <|> some port) = some port ↔
      ∀ digits ∈ (splitPort false (unnamed cs)).2,
        digits = [] ∨ Text.natural? digits = some port := by
  have hread := parsePort_ok (parseAuthority_ok h).2 hport
  cases hdigits : (splitPort false (unnamed cs)).2 with
  | none =>
    rw [hdigits] at hread
    rcases hread with ⟨-, hnone⟩ | ⟨n, hn, -⟩
    · simp [hnone]
    · exact nomatch hn
  | some digits =>
    rw [hdigits, Option.getD_some] at hread
    rcases hread with ⟨rfl, hnone⟩ | ⟨n, hn, heq⟩
    · simp [hnone]
    · have hne : digits ≠ [] := (Text.natural?_eq_some_iff.mp hn).1
      simp [heq, hn, hne]

/-- A port that is put behind an authority is used, unless an open bracket keeps it from being one:
no port is read then. -/
theorem givenPort_iff {n : Nat}
    (h : parseAuthority scheme (cs ++ ':' :: Text.decimal n) atEnd = .ok a)
    (hport : schemePort? scheme = some port) : (a.port <|> some port) = some n ↔
      (bracketOpen false (unnamed cs) = true → n = port) := by
  have hdigits : ∀ c ∈ Text.decimal n, c.isDigit = true := fun c => Text.isDigit_of_mem_decimal
  have hcolon : ':' ∉ Text.decimal n := fun hmem => absurd (hdigits ':' hmem) (by decide)
  have hat : '@' ∉ ':' :: Text.decimal n := by
    rintro (_ | ⟨_, hmem⟩)
    exact absurd (hdigits '@' hmem) (by decide)
  have hread := parsePort_ok (parseAuthority_ok h).2 hport
  rw [unnamed_append hat] at hread
  cases hbare : (splitPort false (unnamed cs)).2 with
  | some digits =>
    -- two colons: what stands behind the first is no numeral
    rw [splitPort_append_of_some hbare, Option.getD_some] at hread
    rcases hread with ⟨hnil, -⟩ | ⟨m, hm, -⟩
    · exact absurd hnil (by simp)
    · exact absurd ((Text.natural?_eq_some_iff.mp hm).2.1 ':' (by simp)) (by decide)
  | none =>
    rw [splitPort_append_of_none hbare] at hread
    cases hopen : bracketOpen false (unnamed cs) with
    | false =>
      -- the colon that is put behind is the first outside brackets
      have hsplit : (splitPort false (':' :: Text.decimal n)).2 = some (Text.decimal n) := rfl
      rw [hopen, hsplit, Option.getD_some, Text.natural?_decimal] at hread
      rcases hread with ⟨hnil, -⟩ | ⟨m, hm, heq⟩
      · exact absurd hnil (Text.decimal_ne_nil n)
      · rw [heq, ← hm]
        simp
    | true =>
      -- the colon is inside brackets, and no other follows
      have hsplit : (splitPort true (':' :: Text.decimal n)).2 = none :=
        splitPort_of_notMem hcolon true
      rw [hopen, hsplit] at hread
      rcases hread with ⟨-, hnone⟩ | ⟨m, hm, -⟩
      · simp [hnone, eq_comm]
      · exact nomatch hm

end AlarmKeypad.Url
