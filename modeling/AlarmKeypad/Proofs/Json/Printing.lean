import AlarmKeypad.Json.Printer
import AlarmKeypad.Proofs.Json.Writing
import AlarmKeypad.Proofs.Text.Numeral

namespace AlarmKeypad.Json

open Token

/-! ## Integers -/

theorem exists_numeral_eq_renderInt {i : Int} (low : -(UInt64.size / 2 : Int) ≤ i)
    (high : i < UInt64.size) :
    ∃ n : Numeral, n.text = renderInt i ∧ Number.value? n.parts = some (.int i) := by
  have hdigits (n : Nat) : Text.decimal n ≠ [] ∧ ∀ d ∈ Text.decimal n, d.isDigit = true :=
    ⟨Text.decimal_ne_nil n, fun d hd => Text.isDigit_of_mem_decimal hd⟩
  have htext (n : Nat) : Text.decimal n ++ [] ++ [] = Text.decimal n := by
    rw [List.append_nil, List.append_nil]
  cases i with
  | ofNat n =>
    have hle : n ≤ Number.maxSignificand := by
      have : UInt64.size = Number.maxSignificand + 1 := rfl
      simp only [Int.ofNat_eq_natCast] at high
      omega
    refine ⟨⟨false, ⟨_, hdigits n⟩, none, none, fun r => Text.eq_nil_of_decimal_eq_zero_cons⟩,
      htext n, ?_⟩
    simp [Numeral.parts, Number.value?, Number.integer?, hle]
  | negSucc n =>
    have hle : n + 1 ≤ UInt64.size / 2 := by omega
    refine ⟨⟨true, ⟨_, hdigits (n + 1)⟩, none, none,
      fun r => Text.eq_nil_of_decimal_eq_zero_cons⟩, congrArg _ (htext (n + 1)), ?_⟩
    simp [Numeral.parts, Number.value?, Number.integer?, hle, Int.negSucc_eq]

/-! ## Strings -/

/-- What a character is written as: control characters without a letter of their own by number. -/
def unitOf (c : Char) : StringUnit :=
  if c.toNat < 0x20 ∧ c ∉ ['\x08', '\t', '\n', '\x0c', '\r'] then .word c.toNat else .char c

theorem word?_hexChars {n : Nat} (h : n < 0x20) :
    word? '0' '0' (hexChar (n / 16)) (hexChar (n % 16)) = some n := by
  have all : ∀ n < 0x20, word? '0' '0' (hexChar (n / 16)) (hexChar (n % 16)) = some n := by decide
  exact all n h

theorem joinUnits_word {n : Nat} (h : n < 0x20) (us : List StringUnit) :
    joinUnits (.word n :: us) = (joinUnits us).map (Char.ofNat n :: ·) := by
  have hhigh : isHigh n = false := by simp [isHigh]; omega
  have hlow : isLow n = false := by simp [isLow]; omega
  cases us with
  | nil => simp [joinUnits, hhigh, hlow]
  | cons u us => cases u <;> simp [joinUnits, hhigh, hlow]

theorem joinUnits_map_unitOf (cs : List Char) : joinUnits (cs.map unitOf) = some cs := by
  induction cs with
  | nil => rfl
  | cons c cs ih =>
    rw [List.map_cons, unitOf]
    split
    · rename_i hc
      rw [joinUnits_word hc.1, ih, Char.ofNat_toNat]
      rfl
    · rw [joinUnits, ih]
      rfl

theorem exists_piece (c : Char) : ∃ p : Piece, p.text = escapeChar c ∧ p.unit = unitOf c := by
  unfold escapeChar
  -- the characters that are escaped with a letter or a sign
  split
  · subst c
    exact ⟨.escape '"' (by decide), rfl, rfl⟩
  split
  · subst c
    exact ⟨.escape '\\' (by decide), rfl, rfl⟩
  split
  · subst c
    exact ⟨.escape 'b' (by decide), rfl, rfl⟩
  split
  · subst c
    exact ⟨.escape 't' (by decide), rfl, rfl⟩
  split
  · subst c
    exact ⟨.escape 'n' (by decide), rfl, rfl⟩
  split
  · subst c
    exact ⟨.escape 'f' (by decide), rfl, rfl⟩
  split
  · subst c
    exact ⟨.escape 'r' (by decide), rfl, rfl⟩
  split
  · rename_i hlow
    have hword := word?_hexChars hlow
    refine ⟨.word _ _ _ _ (isSome_of_word? hword), rfl, ?_⟩
    simp [Piece.unit, unitOf, *]
  · rename_i hquote hback _ _ _ _ _ hlow
    refine ⟨.char c ⟨Nat.not_lt.mp hlow, hquote, hback⟩, rfl, ?_⟩
    simp [Piece.unit, unitOf, hlow]

theorem exists_pieces (s : String) :
    ∃ ps, '"' :: piecesText ps = renderString s ∧ string?OfPieces ps = some s := by
  have hpieces (cs : List Char) : ∃ ps : List Piece, ps.flatMap Piece.text = cs.flatMap escapeChar ∧
      ps.map Piece.unit = cs.map unitOf := by
    induction cs with
    | nil => exact ⟨[], rfl, rfl⟩
    | cons c cs ih =>
      obtain ⟨p, htext, hunit⟩ := exists_piece c
      obtain ⟨ps, htexts, hunits⟩ := ih
      exact ⟨p :: ps, by rw [List.flatMap_cons, htext, htexts]; rfl,
        by rw [List.map_cons, hunit, hunits]; rfl⟩
  obtain ⟨ps, htexts, hunits⟩ := hpieces s.toList
  refine ⟨ps, ?_, ?_⟩
  · rw [piecesText, htexts]
    rfl
  · rw [string?OfPieces, hunits, joinUnits_map_unitOf, Option.map_some, String.ofList_toList]

/-! ## Values -/

theorem exists_items_eq_render {items : List Value}
    (hi : ∀ v ∈ items, ∃ w : Writing, w.text = v.render ∧ w.value? = some v) :
    ∃ ws, Writing.itemsText ws = Value.renderItems items ∧
      Writing.itemValues? ws = some items := by
  induction items with
  | nil => exact ⟨[], rfl, rfl⟩
  | cons v items ih =>
    obtain ⟨w, htext, hw⟩ := hi v List.mem_cons_self
    obtain ⟨ws, htexts, hws⟩ := ih fun x hx => hi x (List.mem_cons_of_mem _ hx)
    exact ⟨w :: ws, by rw [Writing.itemsText, htext, htexts]; rfl,
      by rw [Writing.itemValues?, hw, hws]; rfl⟩

theorem exists_key_eq_render (s : String) :
    ∃ k : Key, k.text = renderString s ∧ k.string? = some s := by
  obtain ⟨ps, htext, hps⟩ := exists_pieces s
  exact ⟨⟨.none, ps, .none⟩, (List.append_nil _).trans htext, hps⟩

theorem exists_members_eq_render {members : List Member}
    (hm : ∀ m ∈ members, ∃ w : Writing, w.text = m.2.render ∧ w.value? = some m.2) :
    ∃ ms, Writing.membersText ms = Value.renderMembers members ∧
      Writing.memberValues? ms = some members := by
  induction members with
  | nil => exact ⟨[], rfl, rfl⟩
  | cons m members ih =>
    obtain ⟨l, v⟩ := m
    obtain ⟨k, hkey, hk⟩ := exists_key_eq_render l
    obtain ⟨w, htext, hw⟩ := hm (l, v) List.mem_cons_self
    obtain ⟨ms, htexts, hms⟩ := ih fun x hx => hm x (List.mem_cons_of_mem _ hx)
    exact ⟨(k, w) :: ms, by rw [Writing.membersText, hkey, htext, htexts]; rfl,
      by rw [Writing.memberValues?, hk, hw, hms]; rfl⟩

/-- A printed value is a text by the grammar. -/
theorem exists_writing_eq_render {v : Value} (hv : v.Integral) :
    ∃ w : Writing, w.text = v.render ∧ w.value? = some v := by
  induction hv with
  | null => exact ⟨.null, rfl, rfl⟩
  | bool b => exact ⟨.bool b, by cases b <;> rfl, rfl⟩
  | int i low high =>
    obtain ⟨n, htext, hn⟩ := exists_numeral_eq_renderInt low high
    exact ⟨.number n, htext, hn⟩
  | string s =>
    obtain ⟨ps, htext, hps⟩ := exists_pieces s
    exact ⟨.string ps, htext, by rw [Writing.value?, hps, Option.map_some]⟩
  | array items _ ih =>
    cases items with
    | nil => exact ⟨.array .none [], rfl, rfl⟩
    | cons v items =>
      obtain ⟨w, htext, hw⟩ := ih v List.mem_cons_self
      obtain ⟨ws, htexts, hws⟩ :=
        exists_items_eq_render fun x hx => ih x (List.mem_cons_of_mem _ hx)
      exact ⟨.array .none (w :: ws), by rw [Writing.text, htext, htexts]; rfl,
        by rw [Writing.value?, Writing.itemValues?, hw, hws]; rfl⟩
  | object members _ ih =>
    cases members with
    | nil => exact ⟨.object .none [], rfl, rfl⟩
    | cons m members =>
      obtain ⟨l, v⟩ := m
      obtain ⟨k, hkey, hk⟩ := exists_key_eq_render l
      obtain ⟨w, htext, hw⟩ := ih (l, v) List.mem_cons_self
      obtain ⟨ms, htexts, hms⟩ :=
        exists_members_eq_render fun x hx => ih x (List.mem_cons_of_mem _ hx)
      exact ⟨.object .none ((k, w) :: ms), by rw [Writing.text, hkey, htext, htexts]; rfl,
        by rw [Writing.value?, Writing.memberValues?, hk, hw, hms]; rfl⟩

/-- A printed value reads back if its numbers are integers and it is not nested too deep. -/
theorem Value.parse?_render {v : Value} (hv : v.Integral) (hd : v.Within Reader.maxDepth) :
    parse? v.render = some v := by
  obtain ⟨w, htext, hw⟩ := exists_writing_eq_render hv
  rw [← htext, parse?_text]
  exact ⟨hw, hd⟩

/-! ## Characters -/

/-- Whether no character of a text is a control character of ASCII. -/
def Graphic (cs : List Char) : Prop := ∀ c ∈ cs, 0x20 ≤ c.toNat

instance (cs : List Char) : Decidable (Graphic cs) := List.decidableBAll _ cs

theorem graphic_nil : Graphic [] := List.forall_mem_nil _

theorem graphic_cons {c : Char} {cs : List Char} :
    Graphic (c :: cs) ↔ 0x20 ≤ c.toNat ∧ Graphic cs :=
  List.forall_mem_cons

theorem graphic_append {cs ds : List Char} : Graphic (cs ++ ds) ↔ Graphic cs ∧ Graphic ds :=
  List.forall_mem_append

theorem graphic_hexChar {n : Nat} (h : n < 16) : 0x20 ≤ (hexChar n).toNat := by
  have all : ∀ n < 16, 0x20 ≤ (hexChar n).toNat := by decide
  exact all n h

theorem graphic_escapeChar (c : Char) : Graphic (escapeChar c) := by
  unfold escapeChar
  iterate 7
    split
    · simp only [graphic_cons]
      exact ⟨by decide, by decide, graphic_nil⟩
  split
  · simp only [graphic_cons]
    exact ⟨by decide, by decide, by decide, by decide, graphic_hexChar (by omega),
      graphic_hexChar (by omega), graphic_nil⟩
  · exact graphic_cons.mpr ⟨by omega, graphic_nil⟩

theorem graphic_renderString (s : String) : Graphic (renderString s) := by
  have hescaped : Graphic (s.toList.flatMap escapeChar) := by
    intro x hx
    obtain ⟨c, -, hc⟩ := List.mem_flatMap.mp hx
    exact graphic_escapeChar c x hc
  simp only [renderString, graphic_append, graphic_cons]
  exact ⟨⟨by decide, hescaped⟩, by decide, graphic_nil⟩

theorem graphic_decimal (n : Nat) : Graphic (Text.decimal n) := fun c hc => by
  have hdigit := Char.isDigit_iff_toNat.mp (Text.isDigit_of_mem_decimal hc)
  exact Nat.le_trans (by decide) hdigit.1

theorem graphic_items {items : List Value} (h : ∀ v ∈ items, Graphic v.render) :
    Graphic (Value.renderItems items) := by
  induction items with
  | nil => exact graphic_nil
  | cons v r ih =>
    simp only [Value.renderItems, List.cons_append, graphic_cons, graphic_append]
    exact ⟨by decide, h v List.mem_cons_self, ih fun x hx => h x (List.mem_cons_of_mem _ hx)⟩

theorem graphic_members {members : List (String × Value)} (h : ∀ m ∈ members, Graphic m.2.render) :
    Graphic (Value.renderMembers members) := by
  induction members with
  | nil => exact graphic_nil
  | cons m r ih =>
    simp only [Value.renderMembers, List.cons_append, graphic_cons, graphic_append]
    exact ⟨by decide, ⟨graphic_renderString _, by decide, h m List.mem_cons_self⟩,
      ih fun x hx => h x (List.mem_cons_of_mem _ hx)⟩

theorem graphic_render {v : Value} (hv : v.Integral) : Graphic v.render := by
  induction hv with
  | null => exact (by decide : Graphic ['n', 'u', 'l', 'l'])
  | bool b =>
    cases b with
    | true => exact (by decide : Graphic ['t', 'r', 'u', 'e'])
    | false => exact (by decide : Graphic ['f', 'a', 'l', 's', 'e'])
  | int n =>
    cases n with
    | ofNat n => exact graphic_decimal n
    | negSucc n => exact graphic_cons.mpr ⟨by decide, graphic_decimal _⟩
  | string s => exact graphic_renderString s
  | array items _ ih =>
    cases items with
    | nil => exact (by decide : Graphic ['[', ']'])
    | cons v r =>
      have hr := graphic_items fun x hx => ih x (List.mem_cons_of_mem _ hx)
      simp only [Value.render, graphic_append, graphic_cons]
      exact ⟨⟨⟨by decide, ih v List.mem_cons_self⟩, hr⟩, by decide, graphic_nil⟩
  | object members _ ih =>
    cases members with
    | nil => exact (by decide : Graphic ['\x7b', '\x7d'])
    | cons m r =>
      have hr := graphic_members fun x hx => ih x (List.mem_cons_of_mem _ hx)
      simp only [Value.render, List.cons_append, graphic_append, graphic_cons]
      exact ⟨by decide, ⟨⟨graphic_renderString _, by decide, ih m List.mem_cons_self⟩, hr⟩,
        by decide, graphic_nil⟩

end AlarmKeypad.Json
