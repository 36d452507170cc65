import AlarmKeypad.Proofs.Json.Reading
import Mathlib.Data.List.TakeDrop
import Mathlib.Data.Option.NAry
/-!
# JSON texts by the grammar

How values are written: with blanks anywhere between the tokens, numerals with a fraction and an
exponent, and strings with escapes. Each way to write a value stands for a value, unless a numeral is
too large or half a surrogate pair stands alone; the text is read as that value, unless it is nested
too deep.
-/

namespace AlarmKeypad.Json

open Token

/-! ## The grammar -/

abbrev Blank := {cs : List Char // ∀ c ∈ cs, isSpace c = true}

def Blank.none : Blank := ⟨[], nofun⟩

abbrev Digits := {ds : List Char // ds ≠ [] ∧ ∀ d ∈ ds, d.isDigit = true}

structure Exponent where
  capital : Bool
  /-- Whether it is a minus sign, if there is one. -/
  sign : Option Bool
  digits : Digits

structure Numeral where
  negative : Bool
  whole : Digits
  fraction : Option Digits
  exponent : Option Exponent
  noLeadingZero : ∀ r, whole.val = '0' :: r → r = []

inductive Piece where
  | char (c : Char) (h : 0x20 ≤ c.toNat ∧ c ≠ '"' ∧ c ≠ '\\')
  | escape (c : Char) (h : c ∈ ['"', '\\', '/', 'b', 'f', 'n', 'r', 't'])
  | word (a b c d : Char) (h : ∀ x ∈ [a, b, c, d], (Text.hexDigit? x).isSome = true)

structure Key where
  before : Blank
  pieces : List Piece
  after : Blank

/-- A value as it is written; the inner blanks are those behind an opening bracket. -/
inductive Writing where
  | null
  | bool (b : Bool)
  | number (n : Numeral)
  | string (pieces : List Piece)
  | array (inner : Blank) (items : List Writing)
  | object (inner : Blank) (members : List (Key × Writing))
  | spaced (before : Blank) (w : Writing) (after : Blank)

/-! ## Texts -/

def Exponent.text (e : Exponent) : List Char :=
  (if e.capital then 'E' else 'e') ::
    ((e.sign.elim [] fun minus => if minus then ['-'] else ['+']) ++ e.digits.val)

def Numeral.text (n : Numeral) : List Char :=
  (if n.negative then ['-'] else []) ++ n.whole.val ++
    n.fraction.elim [] (fun ds => '.' :: ds.val) ++ n.exponent.elim [] Exponent.text

def Piece.text : Piece → List Char
  | char c _ => [c]
  | escape c _ => ['\\', c]
  | word a b c d _ => ['\\', 'u', a, b, c, d]

def piecesText (ps : List Piece) : List Char := ps.flatMap Piece.text ++ ['"']

def Key.text (k : Key) : List Char := k.before.val ++ '"' :: piecesText k.pieces ++ k.after.val

namespace Writing

mutual

def text : Writing → List Char
  | null => ['n', 'u', 'l', 'l']
  | bool true => ['t', 'r', 'u', 'e']
  | bool false => ['f', 'a', 'l', 's', 'e']
  | number n => n.text
  | string ps => '"' :: piecesText ps
  | array b [] => '[' :: b.val ++ [']']
  | array b (w :: r) => '[' :: b.val ++ w.text ++ itemsText r ++ [']']
  | object b [] => '\x7b' :: b.val ++ ['\x7d']
  | object b ((k, w) :: r) => '\x7b' :: b.val ++ k.text ++ ':' :: w.text ++ membersText r ++ ['\x7d']
  | spaced b w a => b.val ++ w.text ++ a.val

/-- The items after the first, each behind a comma. -/
def itemsText : List Writing → List Char
  | [] => []
  | w :: r => ',' :: w.text ++ itemsText r

def membersText : List (Key × Writing) → List Char
  | [] => []
  | (k, w) :: r => ',' :: k.text ++ ':' :: w.text ++ membersText r

end

end Writing

/-! ## What they stand for -/

def Exponent.parts (e : Exponent) : Bool × List Char := (e.sign = some true, e.digits.val)

def Numeral.parts (n : Numeral) : Number.Parts where
  negative := n.negative
  whole := n.whole.val
  fraction := n.fraction.map Subtype.val
  exponent := n.exponent.map Exponent.parts

def Piece.unit : Piece → StringUnit
  | char c _ => .char c
  | escape c _ => .char ((escape? c).getD c)
  | word a b c d _ => .word ((word? a b c d).getD 0)

/-- The string that is written; half a surrogate pair alone makes none. -/
def string?OfPieces (ps : List Piece) : Option String :=
  (joinUnits (ps.map Piece.unit)).map String.ofList

def Key.string? (k : Key) : Option String := string?OfPieces k.pieces

namespace Writing

mutual

/-- The value that is written, however deep it is nested. -/
def value? : Writing → Option Value
  | null => some .null
  | bool b => some (.bool b)
  | number n => Number.value? n.parts
  | string ps => (string?OfPieces ps).map .string
  | array _ items => (itemValues? items).map .array
  | object _ members => (memberValues? members).map .object
  | spaced _ w _ => w.value?

def itemValues? : List Writing → Option (List Value)
  | [] => some []
  | w :: r => Option.map₂ (· :: ·) w.value? (itemValues? r)

def memberValues? : List (Key × Writing) → Option (List Member)
  | [] => some []
  | (k, w) :: r =>
    Option.map₂ (· :: ·) (Option.map₂ (·, ·) k.string? w.value?) (memberValues? r)

end

/-- What holds of an array or object whenever it holds of all that is in it, and of a value among
blanks whenever it holds of the value, holds of every writing. -/
theorem induct {P : Writing → Prop} (null : P .null) (bool : ∀ b, P (.bool b))
    (number : ∀ n, P (.number n)) (string : ∀ ps, P (.string ps))
    (array : ∀ b items, (∀ w ∈ items, P w) → P (.array b items))
    (object : ∀ b (members : List (Key × Writing)), (∀ m ∈ members, P m.2) → P (.object b members))
    (spaced : ∀ b w a, P w → P (.spaced b w a)) : ∀ w, P w
  | .null => null
  | .bool b => bool b
  | .number n => number n
  | .string ps => string ps
  | .array b items => array b items fun w _ => induct null bool number string array object spaced w
  | .object b members =>
    object b members fun m _ => induct null bool number string array object spaced m.2
  | .spaced b w a => spaced b w a (induct null bool number string array object spaced w)
termination_by w => sizeOf w
decreasing_by
  · have := List.sizeOf_lt_of_mem ‹w ∈ items›
    simp only [Writing.array.sizeOf_spec]
    omega
  · have := List.sizeOf_lt_of_mem ‹m ∈ members›
    obtain ⟨k, x⟩ := m
    simp only [Writing.object.sizeOf_spec, Prod.mk.sizeOf_spec] at this ⊢
    omega
  · simp only [Writing.spaced.sizeOf_spec]
    omega

end Writing

/-! ## Numerals -/

section
variable {c : Char} {r rest : List Char} {ds : List Char}

/-- Whether digits end before the text. -/
def EndsDigits (cs : List Char) : Prop := ∀ c ∈ cs.head?, c.isDigit = false

def Stops (cs : List Char) : Prop :=
  ∀ c ∈ cs.head?, c.isDigit = false ∧ c ≠ '.' ∧ c ≠ 'e' ∧ c ≠ 'E'

/-- A token of one character, which ends a numeral before it. -/
theorem stops_cons (hc : c.isDigit = false) (hp : c ≠ '.') (he : c ≠ 'e') (hE : c ≠ 'E') :
    Stops (c :: r) := by
  intro d hd
  obtain rfl := Option.some.inj hd
  exact ⟨hc, hp, he, hE⟩

theorem digits?_append (h : ds ≠ [] ∧ ∀ d ∈ ds, d.isDigit = true) (hr : EndsDigits rest) :
    Number.digits? (ds ++ rest) = some (ds, rest) := by
  have hrest : rest.takeWhile Char.isDigit = [] ∧ rest.dropWhile Char.isDigit = rest := by
    cases rest with
    | nil => exact ⟨rfl, rfl⟩
    | cons c r =>
      have hc : c.isDigit = false := hr c rfl
      simp [hc]
  unfold Number.digits?
  rw [List.span_eq_takeWhile_dropWhile, List.takeWhile_append_of_pos h.2,
    List.dropWhile_append_of_pos h.2, hrest.1, hrest.2, List.append_nil]
  split
  · rename_i heq
    exact absurd (Prod.mk.inj heq).1 h.1
  · rfl

theorem whole?_append {n : Numeral} (hr : EndsDigits rest) :
    Number.whole? (n.whole.val ++ rest) = some (n.whole.val, rest) := by
  unfold Number.whole?
  rw [digits?_append n.whole.property hr]
  split
  · rename_i heq
    exact absurd (n.noLeadingZero _ (Prod.mk.inj (Option.some.inj heq)).1) (List.cons_ne_nil _ _)
  · rfl

theorem fraction?_append (fraction : Option Digits) (hdigits : EndsDigits rest)
    (hpoint : ∀ r, rest ≠ '.' :: r) :
    Number.fraction? (fraction.elim [] (fun ds => '.' :: ds.val) ++ rest) =
      some (fraction.map Subtype.val, rest) := by
  cases fraction with
  | none =>
    rw [Option.elim_none, List.nil_append]
    unfold Number.fraction?
    split
    · exact absurd rfl (hpoint _)
    · rfl
  | some ds =>
    change (Number.digits? (ds.val ++ rest)).map _ = _
    rw [digits?_append ds.property hdigits]
    rfl

theorem exponent?_signed (capital minus : Bool) (r : List Char) :
    Number.exponent? ((if capital then 'E' else 'e') ::
      ((if minus then ['-'] else ['+']) ++ r)) = Number.exponentDigits? minus r := by
  cases capital <;> cases minus <;> rfl

theorem exponent?_unsigned (capital : Bool) (hplus : c ≠ '+') (hminus : c ≠ '-') :
    Number.exponent? ((if capital then 'E' else 'e') :: c :: r) =
      Number.exponentDigits? false (c :: r) := by
  unfold Number.exponent?
  cases capital <;> simp [hplus, hminus]

theorem exponent?_of_stops (hr : Stops rest) : Number.exponent? rest = some (none, rest) := by
  unfold Number.exponent?
  split
  case h_7 => rfl
  all_goals first | exact absurd rfl (hr 'e' rfl).2.2.1 | exact absurd rfl (hr 'E' rfl).2.2.2

theorem exponent?_append (exponent : Option Exponent) (hr : Stops rest) :
    Number.exponent? (exponent.elim [] Exponent.text ++ rest) =
      some (exponent.map Exponent.parts, rest) := by
  cases exponent with
  | none => exact exponent?_of_stops hr
  | some e =>
    obtain ⟨capital, sign, ⟨ds, hne, hds⟩⟩ := e
    have hdigits (negative : Bool) : Number.exponentDigits? negative (ds ++ rest) =
        some (some (negative, ds), rest) := by
      rw [Number.exponentDigits?, digits?_append ⟨hne, hds⟩ fun c hc => (hr c hc).1]
      rfl
    cases sign with
    | some minus =>
      have hread := (exponent?_signed capital minus (ds ++ rest)).trans (hdigits minus)
      simpa [Exponent.text, Exponent.parts] using hread
    | none =>
      cases ds with
      | nil => exact absurd rfl hne
      | cons d ds =>
        have hd : d.isDigit = true := hds d List.mem_cons_self
        have hplus : d ≠ '+' := by
          rintro rfl
          exact absurd hd (by decide)
        have hminus : d ≠ '-' := by
          rintro rfl
          exact absurd hd (by decide)
        have hread := (exponent?_unsigned (r := ds ++ rest) capital hplus hminus).trans
          (hdigits false)
        simpa [Exponent.text, Exponent.parts] using hread

/-- Nothing but an exponent can follow a numeral without one. -/
theorem head?_exponent (exponent : Option Exponent) (hr : Stops rest) :
    ∀ c ∈ (exponent.elim [] Exponent.text ++ rest).head?, c.isDigit = false ∧ c ≠ '.' := by
  cases exponent with
  | none => exact fun c hc => ⟨(hr c hc).1, (hr c hc).2.1⟩
  | some e =>
    intro c hc
    obtain rfl : (if e.capital then 'E' else 'e') = c := Option.some.inj hc
    cases e.capital <;> decide

theorem endsDigits_fraction (n : Numeral) (hr : Stops rest) :
    EndsDigits (n.fraction.elim [] (fun ds => '.' :: ds.val) ++
      (n.exponent.elim [] Exponent.text ++ rest)) := by
  cases n.fraction with
  | none => exact fun c hc => (head?_exponent n.exponent hr c hc).1
  | some ds =>
    intro c hc
    obtain rfl : '.' = c := Option.some.inj hc
    rfl

theorem Numeral.text_append (n : Numeral) (rest : List Char) : n.text ++ rest =
    (if n.negative then ['-'] else []) ++ (n.whole.val ++
      (n.fraction.elim [] (fun ds => '.' :: ds.val) ++
        (n.exponent.elim [] Exponent.text ++ rest))) := by
  simp only [Numeral.text, List.append_assoc]

theorem Numeral.exists_whole_eq_cons (n : Numeral) :
    ∃ d ds, n.whole.val = d :: ds ∧ d.isDigit = true := by
  obtain ⟨ds, hne, hds⟩ := n.whole
  cases ds with
  | nil => exact absurd rfl hne
  | cons d ds => exact ⟨d, ds, rfl, hds d List.mem_cons_self⟩

/-- A numeral is read up to its end. -/
theorem parts?_text (n : Numeral) (hr : Stops rest) :
    Number.parts? (n.text ++ rest) = some (n.parts, rest) := by
  have hexponent := exponent?_append n.exponent hr
  have hfraction := fraction?_append n.fraction
    (fun c hc => (head?_exponent n.exponent hr c hc).1)
    fun r heq => (head?_exponent n.exponent hr '.' (heq ▸ rfl)).2 rfl
  have hwhole := whole?_append (n := n) (endsDigits_fraction n hr)
  rw [n.text_append]
  unfold Number.parts?
  cases hneg : n.negative with
  | true =>
    simp only [if_true, List.singleton_append, hwhole, hfraction, hexponent, Option.bind_eq_bind,
      Option.bind_some, Numeral.parts, hneg]
    rfl
  | false =>
    obtain ⟨d, ds, hd, hdigit⟩ := n.exists_whole_eq_cons
    have hminus : d ≠ '-' := fun heq => absurd hdigit (heq ▸ by decide)
    split
    rename_i heq
    split at heq
    · rename_i hcons
      rw [hd] at hcons
      exact absurd (List.cons.inj hcons).1 hminus
    · obtain ⟨rfl, rfl⟩ := Prod.mk.inj heq
      simp only [Bool.false_eq_true, if_false, List.nil_append, hwhole, hfraction, hexponent,
        Option.bind_eq_bind, Option.bind_some, Numeral.parts, hneg]
      rfl

end

/-! ## Strings -/

section
variable {r rest : List Char}

theorem units?_char {c : Char} (h : 0x20 ≤ c.toNat ∧ c ≠ '"' ∧ c ≠ '\\') :
    units? (c :: r) = (units? r).map fun x => (.char c :: x.1, x.2) := by
  have hc : ¬(c.toNat < 0x20 ∨ c = '\\') := by
    rintro (hlow | hback)
    · exact absurd h.1 (Nat.not_le.mpr hlow)
    · exact h.2.2 hback
  rw [units?.eq_5 _ _ (fun heq => h.2.1 heq) (fun _ _ _ _ _ heq => absurd heq h.2.2)
    (fun _ _ heq => absurd heq h.2.2), if_neg hc]
  cases units? r <;> rfl

theorem units?_escape {c : Char} (h : c ∈ ['"', '\\', '/', 'b', 'f', 'n', 'r', 't']) :
    units? ('\\' :: c :: r) =
      (units? r).map fun x => (.char ((escape? c).getD c) :: x.1, x.2) := by
  have hall : ∀ c ∈ ['"', '\\', '/', 'b', 'f', 'n', 'r', 't'],
      c ≠ 'u' ∧ escape? c = some ((escape? c).getD c) := by simp [escape?]
  obtain ⟨hu, hescape⟩ := hall c h
  rw [units?.eq_4 _ _ fun _ _ _ _ _ heq => absurd heq hu, hescape]
  cases units? r <;> rfl

theorem isSome_of_word? {a b c d : Char} {n : Nat} (h : word? a b c d = some n) :
    ∀ x ∈ [a, b, c, d], (Text.hexDigit? x).isSome = true := by
  simp only [word?, Option.bind_eq_bind, Option.bind_eq_some_iff] at h
  obtain ⟨w, hw, x, hx, y, hy, z, hz, -⟩ := h
  simp [hw, hx, hy, hz]

theorem units?_word {a b c d : Char} (h : ∀ x ∈ [a, b, c, d], (Text.hexDigit? x).isSome = true) :
    units? ('\\' :: 'u' :: a :: b :: c :: d :: r) =
      (units? r).map fun x => (.word ((word? a b c d).getD 0) :: x.1, x.2) := by
  have hword : word? a b c d = some ((word? a b c d).getD 0) := by
    obtain ⟨w, hw⟩ := Option.isSome_iff_exists.mp (h a (by simp))
    obtain ⟨x, hx⟩ := Option.isSome_iff_exists.mp (h b (by simp))
    obtain ⟨y, hy⟩ := Option.isSome_iff_exists.mp (h c (by simp))
    obtain ⟨z, hz⟩ := Option.isSome_iff_exists.mp (h d (by simp))
    rw [word?, hw, hx, hy, hz]
    rfl
  rw [units?, hword]
  cases units? r <;> rfl

theorem units?_piece (p : Piece) :
    units? (p.text ++ r) = (units? r).map fun x => (p.unit :: x.1, x.2) := by
  cases p with
  | char c h => exact units?_char h
  | escape c h => exact units?_escape h
  | word a b c d h => exact units?_word h

theorem piecesText_cons (p : Piece) (ps : List Piece) :
    piecesText (p :: ps) = p.text ++ piecesText ps := by
  simp only [piecesText, List.flatMap_cons, List.append_assoc]

theorem units?_text (ps : List Piece) :
    units? (piecesText ps ++ rest) = some (ps.map Piece.unit, rest) := by
  induction ps with
  | nil => rfl
  | cons p ps ih =>
    rw [piecesText_cons, List.append_assoc, units?_piece, ih]
    rfl

/-- A string is read up to its closing quote. -/
theorem string?_text (ps : List Piece) :
    string? (piecesText ps ++ rest) = (string?OfPieces ps).map fun s => (.string s, rest) := by
  rw [string?, units?_text, string?OfPieces]
  simp only [Option.bind_eq_bind, Option.bind_some]
  cases joinUnits (ps.map Piece.unit) <;> rfl

end

/-! ## Cutting a text into tokens -/

/-- The text is cut into the tokens, or into none. -/
def Cuts (cs : List Char) (o : Option (List Token)) : Prop :=
  ∀ fuel, cs.length ≤ fuel → scanWithin fuel cs = o

theorem cuts_nil : Cuts [] (some []) := fun fuel _ => by cases fuel <;> rfl

section
variable {c : Char} {r rest : List Char} {o : Option (List Token)}

/-- Blanks in front of a text are left out. -/
theorem scanWithin_blanks {fuel : Nat} (b : Blank) :
    scanWithin fuel (b.val ++ rest) = scanWithin fuel rest := by
  unfold scanWithin
  rw [List.dropWhile_append_of_pos b.property]

theorem Cuts.blanks (b : Blank) (h : Cuts rest o) : Cuts (b.val ++ rest) o := by
  intro fuel hfuel
  rw [List.length_append] at hfuel
  rw [scanWithin_blanks]
  exact h fuel (by omega)

/-- One token or none, and what the text after it is cut into. -/
theorem Cuts.cons {t : Option Token} (hc : isSpace c = false)
    (hn : next? (c :: r) = t.map fun t => (t, rest)) (hlen : rest.length ≤ r.length)
    (h : Cuts rest o) : Cuts (c :: r) (Option.map₂ (· :: ·) t o) := by
  intro fuel hfuel
  have hdrop : (c :: r).dropWhile isSpace = c :: r := List.dropWhile_cons_of_neg (by simp [hc])
  cases fuel with
  | zero => exact absurd hfuel (Nat.not_succ_le_zero _)
  | succ fuel =>
    rw [List.length_cons] at hfuel
    have hrest : scanWithin fuel rest = o := h fuel (by omega)
    unfold scanWithin
    rw [hdrop]
    cases t with
    | none => simp only [hn, Option.map_none, Option.bind_eq_bind, Option.bind_none,
        Option.map₂_none_left]
    | some t =>
      simp only [hn, Option.map_some, Option.bind_eq_bind, Option.bind_some, hrest]
      cases o <;> rfl

/-- A token of its own character. -/
theorem Cuts.sign {t : Token} (hc : isSpace c = false) (hn : next? (c :: rest) = some (t, rest))
    (h : Cuts rest o) : Cuts (c :: rest) (o.map (t :: ·)) := by
  have hcons := h.cons hc (t := some t) hn (Nat.le_refl _)
  cases o <;> exact hcons

theorem stops_blanks (b : Blank) (hr : Stops rest) : Stops (b.val ++ rest) := by
  obtain ⟨bs, hb⟩ := b
  cases bs with
  | nil => exact hr
  | cons c bs =>
    have hc : ((c = ' ' ∨ c = '\t') ∨ c = '\n') ∨ c = '\r' := by
      simpa [isSpace] using hb c List.mem_cons_self
    rcases hc with ((rfl | rfl) | rfl) | rfl <;>
      exact stops_cons rfl (by decide) (by decide) (by decide)

/-- A numeral stands for an integer or a floating-point number. -/
theorem value?_eq_int_or_float {p : Number.Parts} {v : Value} (h : Number.value? p = some v) :
    (∃ n, v = .int n) ∨ ∃ x, v = .float x := by
  unfold Number.value? at h
  split at h
  · exact .inl ⟨_, (Option.some.inj h).symm⟩
  · obtain ⟨x, -, rfl⟩ := Option.map_eq_some_iff.mp h
    exact .inr ⟨_, rfl⟩

theorem number?_text (n : Numeral) (hr : Stops rest) : number? (n.text ++ rest) =
    (Number.value? n.parts).bind fun v => v.tokens.head?.map fun t => (t, rest) := by
  rw [number?, parts?_text n hr]
  simp only [Option.bind_eq_bind, Option.bind_some]
  cases hv : Number.value? n.parts with
  | none => rfl
  | some v => obtain ⟨i, rfl⟩ | ⟨x, rfl⟩ := value?_eq_int_or_float hv <;> rfl

/-- A value before any text that does not go on with a numeral. -/
def CutsBefore (w : Writing) : Prop :=
  ∀ rest o, Stops rest → Cuts rest o →
    Cuts (w.text ++ rest) (Option.map₂ (· ++ ·) (w.value?.map Value.tokens) o)

theorem next?_eq_number? (hc : c.isDigit = true ∨ c = '-') :
    next? (c :: r) = number? (c :: r) := by
  unfold next?
  split
  case h_11 => rfl
  all_goals
    rename_i heq
    obtain ⟨rfl, -⟩ := List.cons.inj heq
    exact absurd hc (by decide)

theorem isSpace_of_number (hc : c.isDigit = true ∨ c = '-') : isSpace c = false := by
  rcases hc with hc | rfl
  · simp only [isSpace, Bool.or_eq_false_iff, beq_eq_false_iff_ne]
    refine ⟨⟨⟨?_, ?_⟩, ?_⟩, ?_⟩ <;> rintro rfl <;> exact absurd hc (by decide)
  · rfl

theorem Numeral.exists_text_eq_cons (n : Numeral) :
    ∃ c r, n.text = c :: r ∧ (c.isDigit = true ∨ c = '-') := by
  obtain ⟨d, ds, hd, hdigit⟩ := n.exists_whole_eq_cons
  rw [Numeral.text, hd]
  cases n.negative with
  | true => exact ⟨'-', _, rfl, .inr rfl⟩
  | false => exact ⟨d, _, rfl, .inl hdigit⟩

theorem cutsBefore_number (n : Numeral) : CutsBefore (.number n) := by
  intro rest o hr h
  have hnumber := number?_text n hr
  obtain ⟨c, ds, hd, hc⟩ := n.exists_text_eq_cons
  rw [Writing.text, Writing.value?]
  rw [hd, List.cons_append] at hnumber ⊢
  have hlen : rest.length ≤ (ds ++ rest).length := by
    rw [List.length_append]
    exact Nat.le_add_left _ _
  have hnext := (next?_eq_number? hc).trans hnumber
  cases hv : Number.value? n.parts with
  | none =>
    rw [hv] at hnext
    exact h.cons (isSpace_of_number hc) (t := none) hnext hlen
  | some v =>
    rw [hv] at hnext
    obtain ⟨i, rfl⟩ | ⟨x, rfl⟩ := value?_eq_int_or_float hv
    · exact h.cons (isSpace_of_number hc) (t := some (.int i)) hnext hlen
    · exact h.cons (isSpace_of_number hc) (t := some (.float x)) hnext hlen

theorem Cuts.string (ps : List Piece) (h : Cuts rest o) : Cuts ('"' :: (piecesText ps ++ rest))
    (Option.map₂ (· :: ·) ((string?OfPieces ps).map Token.string) o) := by
  refine h.cons rfl ?_ ?_
  · change string? (piecesText ps ++ rest) = _
    rw [string?_text, Option.map_map]
    rfl
  · rw [List.length_append]
    exact Nat.le_add_left _ _

theorem Cuts.key (k : Key) (h : Cuts rest o) : Cuts (k.text ++ ':' :: rest)
    (Option.map₂ (fun s ts => Token.string s :: .colon :: ts) k.string? o) := by
  have hcolon := (Cuts.sign (t := .colon) (c := ':') rfl rfl h).blanks k.after
  have hkey := (hcolon.string k.pieces).blanks k.before
  simp only [Key.text, List.append_assoc, List.cons_append] at hkey ⊢
  simpa only [Option.map₂_map_left, Option.map₂_map_right, Key.string?] using hkey

theorem stops_itemsText (items : List Writing) (hr : Stops rest) :
    Stops (Writing.itemsText items ++ rest) := by
  cases items with
  | nil => exact hr
  | cons w r => exact stops_cons rfl (by decide) (by decide) (by decide)

theorem stops_membersText (members : List (Key × Writing)) (hr : Stops rest) :
    Stops (Writing.membersText members ++ rest) := by
  cases members with
  | nil => exact hr
  | cons m r => exact stops_cons rfl (by decide) (by decide) (by decide)

theorem Cuts.items {items : List Writing} (hi : ∀ w ∈ items, CutsBefore w) (hr : Stops rest)
    (h : Cuts rest o) : Cuts (Writing.itemsText items ++ rest)
      (Option.map₂ (· ++ ·) ((Writing.itemValues? items).map Value.itemTokens) o) := by
  induction items with
  | nil => cases o <;> exact h
  | cons w r ih =>
    have hrest := ih fun x hx => hi x (List.mem_cons_of_mem _ hx)
    have hitem := Cuts.sign (t := .comma) (c := ',') rfl rfl
      (hi w List.mem_cons_self _ _ (stops_itemsText r hr) hrest)
    rw [Writing.itemsText, Writing.itemValues?, List.cons_append, List.cons_append,
      List.append_assoc]
    convert hitem using 1
    cases w.value? <;> cases Writing.itemValues? r <;> cases o <;> simp [Value.itemTokens]

theorem Cuts.members {members : List (Key × Writing)} (hm : ∀ m ∈ members, CutsBefore m.2)
    (hr : Stops rest) (h : Cuts rest o) : Cuts (Writing.membersText members ++ rest)
      (Option.map₂ (· ++ ·) ((Writing.memberValues? members).map Value.memberTokens) o) := by
  induction members with
  | nil => cases o <;> exact h
  | cons m r ih =>
    obtain ⟨k, w⟩ := m
    have hw : CutsBefore w := hm (k, w) List.mem_cons_self
    have hrest := ih fun x hx => hm x (List.mem_cons_of_mem _ hx)
    have hmember := Cuts.sign (t := .comma) (c := ',') rfl rfl
      ((hw _ _ (stops_membersText r hr) hrest).key k)
    simp only [Writing.membersText, Writing.memberValues?, List.cons_append, List.append_assoc]
      at hmember ⊢
    convert hmember using 1
    cases k.string? <;> cases w.value? <;> cases Writing.memberValues? r <;> cases o <;>
      simp [Value.memberTokens]

theorem cutsBefore_array {b : Blank} {items : List Writing} (hi : ∀ w ∈ items, CutsBefore w) :
    CutsBefore (.array b items) := by
  have hstops : ∀ {rest : List Char}, Stops (']' :: rest) :=
    stops_cons rfl (by decide) (by decide) (by decide)
  intro rest o hr h
  have hend := Cuts.sign (t := .endArray) (c := ']') rfl rfl h
  cases items with
  | nil =>
    have hopen := Cuts.sign (t := .beginArray) (c := '[') rfl rfl (hend.blanks b)
    cases o <;> simpa [Writing.text, Writing.value?, Writing.itemValues?, Value.tokens] using hopen
  | cons w r =>
    have hrest := hend.items (fun x hx => hi x (List.mem_cons_of_mem _ hx)) hstops
    have hfirst := hi w List.mem_cons_self _ _ (stops_itemsText r hstops) hrest
    have hopen := Cuts.sign (t := .beginArray) (c := '[') rfl rfl (hfirst.blanks b)
    simp only [Writing.text, Writing.value?, Writing.itemValues?, List.cons_append,
      List.append_assoc, List.nil_append] at hopen ⊢
    convert hopen using 1
    cases w.value? <;> cases Writing.itemValues? r <;> cases o <;> simp [Value.tokens]

theorem cutsBefore_object {b : Blank} {members : List (Key × Writing)}
    (hm : ∀ m ∈ members, CutsBefore m.2) : CutsBefore (.object b members) := by
  have hstops : ∀ {rest : List Char}, Stops ('\x7d' :: rest) :=
    stops_cons rfl (by decide) (by decide) (by decide)
  intro rest o hr h
  have hend := Cuts.sign (t := .endObject) (c := '\x7d') rfl rfl h
  cases members with
  | nil =>
    have hopen := Cuts.sign (t := .beginObject) (c := '\x7b') rfl rfl (hend.blanks b)
    cases o <;>
      simpa [Writing.text, Writing.value?, Writing.memberValues?, Value.tokens] using hopen
  | cons m r =>
    obtain ⟨k, w⟩ := m
    have hw : CutsBefore w := hm (k, w) List.mem_cons_self
    have hrest := hend.members (fun x hx => hm x (List.mem_cons_of_mem _ hx)) hstops
    have hfirst := (hw _ _ (stops_membersText r hstops) hrest).key k
    have hopen := Cuts.sign (t := .beginObject) (c := '\x7b') rfl rfl (hfirst.blanks b)
    simp only [Writing.text, Writing.value?, Writing.memberValues?, List.cons_append,
      List.append_assoc, List.nil_append] at hopen ⊢
    convert hopen using 1
    cases k.string? <;> cases w.value? <;> cases Writing.memberValues? r <;> cases o <;>
      simp [Value.tokens]

theorem cutsBefore (w : Writing) : CutsBefore w := by
  induction w using Writing.induct with
  | null =>
    intro rest o hr h
    change Cuts ('n' :: 'u' :: 'l' :: 'l' :: rest) _
    exact h.cons rfl (t := some .null) rfl (by simp only [List.length_cons]; omega)
  | bool b =>
    intro rest o hr h
    cases b with
    | true =>
      change Cuts ('t' :: 'r' :: 'u' :: 'e' :: rest) _
      exact h.cons rfl (t := some (.bool true)) rfl (by simp only [List.length_cons]; omega)
    | false =>
      change Cuts ('f' :: 'a' :: 'l' :: 's' :: 'e' :: rest) _
      exact h.cons rfl (t := some (.bool false)) rfl (by simp only [List.length_cons]; omega)
  | number n => exact cutsBefore_number n
  | string ps =>
    intro rest o hr h
    have hstring := h.string ps
    simp only [Writing.text, Writing.value?, List.cons_append]
    convert hstring using 1
    cases string?OfPieces ps <;> cases o <;> rfl
  | array b items ih => exact cutsBefore_array ih
  | object b members ih => exact cutsBefore_object ih
  | spaced b w a ih =>
    intro rest o hr h
    have hspaced := (ih _ _ (stops_blanks a hr) (h.blanks a)).blanks b
    simpa only [Writing.text, Writing.value?, List.append_assoc] using hspaced

/-- The text of a value is cut into the tokens of the value, if it stands for one. -/
theorem scan_text (w : Writing) : scan w.text = w.value?.map Value.tokens := by
  have h := cutsBefore w [] (some []) (fun c hc => nomatch hc) cuts_nil
  rw [List.append_nil] at h
  refine (h _ (Nat.le_refl _)).trans ?_
  cases w.value? <;> simp

end

/-- The text of a value is read as that value, unless it is nested too deep. -/
theorem parse?_text (w : Writing) {v : Value} :
    Value.parse? w.text = some v ↔ w.value? = some v ∧ v.Within Reader.maxDepth := by
  rw [Value.parse?, scan_text, Option.bind_eq_some_iff]
  constructor
  · rintro ⟨ts, hts, hv⟩
    obtain ⟨u, hu, rfl⟩ := Option.map_eq_some_iff.mp hts
    obtain ⟨rfl, hd⟩ := Value.ofTokens?_tokens.mp hv
    exact ⟨hu, hd⟩
  · rintro ⟨hw, hd⟩
    exact ⟨v.tokens, by rw [hw, Option.map_some], Value.ofTokens?_tokens.mpr ⟨rfl, hd⟩⟩

/-- The members that are written stand for these, each for its own. -/
theorem memberValues?_eq_some_iff {members : List (Key × Writing)} {xs : List Member} :
    Writing.memberValues? members = some xs ↔
      List.Forall₂ (fun m x => m.1.string? = some x.1 ∧ m.2.value? = some x.2) members xs := by
  induction members generalizing xs with
  | nil => cases xs <;> simp [Writing.memberValues?]
  | cons m r ih =>
    obtain ⟨k, w⟩ := m
    rw [Writing.memberValues?, Option.map₂_eq_some_iff]
    constructor
    · rintro ⟨x, ys, hx, hys, rfl⟩
      obtain ⟨s, v, hs, hv, rfl⟩ := Option.map₂_eq_some_iff.mp hx
      exact .cons ⟨hs, hv⟩ (ih.mp hys)
    · rintro (_ | ⟨⟨hs, hv⟩, hr⟩)
      exact ⟨_, _, Option.map₂_eq_some_iff.mpr ⟨_, _, hs, hv, rfl⟩, ih.mpr hr, rfl⟩

end AlarmKeypad.Json
