import AlarmKeypad.Fault.Keypad
import AlarmKeypad.Proofs.Text.Case
import AlarmKeypad.Proofs.Text.Numeral

namespace AlarmKeypad

namespace Command

/-! ## The grammar -/

def plainNames : List (String × Command) :=
  [("DISARM", disarm), ("STAY", stay), ("AWAY", away), ("EXIT", exit), ("CHIME", chime),
    ("PANIC", panicAlarm), ("PANIC_ALARM", panicAlarm), ("FIRE", fireAlarm),
    ("FIRE_ALARM", fireAlarm), ("AUX", auxAlarm), ("AUX_ALARM", auxAlarm)]

/-- A zone: one or more digits that spell it, a plus sign before them, and blanks around them. -/
def SpellsZone (arg : List Char) (zone : UInt8) : Prop :=
  ∃ sign digits, Text.trim arg = sign ++ digits ∧ (sign = [] ∨ sign = ['+']) ∧ digits ≠ [] ∧
    (∀ d ∈ digits, d.isDigit = true) ∧ Nat.ofDigitChars 10 digits 0 = zone.toNat

/-- How a text in capital letters, without blanks around it, spells a command. -/
inductive Spells : List Char → Command → Prop
  | name {n c} (h : (n, c) ∈ plainNames) : Spells n.toList c
  | colon {n c} (h : (n, c) ∈ plainNames) : Spells (n.toList ++ [':']) c
  | token {n c} (h : (n, c) ∈ plainNames) : Spells ('<' :: (n.toList ++ ['>'])) c
  | zoneColon {arg zone} (h : SpellsZone arg zone) : Spells ("BYPASS:".toList ++ arg) (bypass zone)
  | zoneToken {arg zone} (h : SpellsZone arg zone) :
      Spells ("<BYPASS>".toList ++ arg) (bypass zone)

variable {name arg cs : List Char} {n text : String} {c : Command} {zone : UInt8}

/-! ## Names and arguments -/

theorem plain?_eq_some_iff : plain? n = some c ↔ (n, c) ∈ plainNames := by
  constructor
  · intro h
    unfold plain? at h
    split at h
    all_goals cases h <;> decide
  · intro h
    simp only [plainNames, List.mem_cons, Prod.mk.injEq, List.not_mem_nil, or_false] at h
    rcases h with ⟨rfl, rfl⟩ | ⟨rfl, rfl⟩ | ⟨rfl, rfl⟩ | ⟨rfl, rfl⟩ | ⟨rfl, rfl⟩ | ⟨rfl, rfl⟩ |
      ⟨rfl, rfl⟩ | ⟨rfl, rfl⟩ | ⟨rfl, rfl⟩ | ⟨rfl, rfl⟩ | ⟨rfl, rfl⟩ <;> rfl

/-- A plain name is none of a zone, and has no bracket or colon in it. -/
theorem plainNames_clean : ∀ p ∈ plainNames,
    p.1 ≠ "BYPASS" ∧ '<' ∉ p.1.toList ∧ '>' ∉ p.1.toList ∧ ':' ∉ p.1.toList := by
  decide

theorem spellsZone_iff : Text.bounded? 255 (Text.trim arg) = some zone.toNat ↔
    SpellsZone arg zone := by
  have hle : zone.toNat ≤ 255 := Nat.le_of_lt_succ zone.toNat_lt
  simp only [Text.bounded?_eq_some_iff, Text.natural?_eq_some_iff, hle, and_true, SpellsZone]

theorem ofNameArg_bypass_eq_ok_iff :
    ofNameArg "BYPASS".toList arg = .ok c ↔ ∃ zone, c = bypass zone ∧ SpellsZone arg zone := by
  rw [ofNameArg, if_pos String.ofList_toList]
  cases hz : Text.bounded? 255 (Text.trim arg) with
  | none =>
    refine iff_of_false nofun ?_
    rintro ⟨zone, -, h⟩
    rw [← spellsZone_iff, hz] at h
    exact nomatch h
  | some v =>
    have hv : v ≤ 255 := by
      obtain ⟨-, -, -, -, -, hle⟩ := Text.bounded?_eq_some_iff.mp hz
      exact hle
    have hvalue : v.toUInt8.toNat = v := Nat.mod_eq_of_lt (Nat.lt_succ_of_le hv)
    have hspells : SpellsZone arg v.toUInt8 := by rw [← spellsZone_iff, hvalue, hz]
    constructor
    · intro h
      exact ⟨_, (Except.ok.inj h).symm, hspells⟩
    · rintro ⟨zone, rfl, h⟩
      rw [← spellsZone_iff, hz] at h
      obtain rfl := Option.some.inj h
      simp

theorem ofNameArg_eq_ok_iff (h : n ≠ "BYPASS") :
    ofNameArg n.toList arg = .ok c ↔ (n, c) ∈ plainNames ∧ arg = [] := by
  rw [ofNameArg, if_neg (by rwa [String.ofList_toList]), String.ofList_toList, ← plain?_eq_some_iff]
  cases plain? n with
  | none => simp
  | some d => by_cases harg : arg = [] <;> simp [harg]

/-- What stands in front is a name with nothing behind it, or the name of a zone. -/
theorem ofNameArg_cases (h : ofNameArg name arg = .ok c) :
    (∃ n, name = n.toList ∧ (n, c) ∈ plainNames ∧ arg = []) ∨
      name = "BYPASS".toList ∧ ∃ zone, c = bypass zone ∧ SpellsZone arg zone := by
  by_cases hname : name = "BYPASS".toList
  · subst hname
    exact .inr ⟨rfl, ofNameArg_bypass_eq_ok_iff.mp h⟩
  · have hne : String.ofList name ≠ "BYPASS" := fun heq => hname (by rw [← heq, String.toList_ofList])
    rw [← String.toList_ofList (l := name)] at h
    exact .inl ⟨_, String.toList_ofList.symm, (ofNameArg_eq_ok_iff hne).mp h⟩

/-! ## Whole texts -/

theorem splitName_token (h : '>' ∉ name) (arg : List Char) :
    splitName ('<' :: (name ++ '>' :: arg)) = .ok (name, arg) := by
  rw [splitName, Text.splitOnce_append h]

theorem splitName_eq (h : cs.head? ≠ some '<') :
    splitName cs = .ok ((Text.splitOnce ':' cs).getD (cs, [])) := by
  unfold splitName
  split
  · exact absurd rfl h
  · rfl

theorem splitName_colon (hstart : (name ++ ':' :: arg).head? ≠ some '<') (h : ':' ∉ name) :
    splitName (name ++ ':' :: arg) = .ok (name, arg) := by
  rw [splitName_eq hstart, Text.splitOnce_append h]
  rfl

theorem splitName_alone (hstart : name.head? ≠ some '<') (h : ':' ∉ name) :
    splitName name = .ok (name, []) := by
  rw [splitName_eq hstart, Text.splitOnce_eq_none_iff.mpr h]
  rfl

theorem splitName_cases (h : splitName cs = .ok (name, arg)) :
    cs = '<' :: (name ++ '>' :: arg) ∨ cs = name ++ ':' :: arg ∨ cs = name ∧ arg = [] := by
  unfold splitName at h
  split at h
  · split at h
    · rename_i hsplit
      obtain rfl := Except.ok.inj h
      exact .inl (congrArg _ (Text.splitOnce_eq_some_iff.mp hsplit).1)
    · exact nomatch h
  · rw [Except.ok.injEq] at h
    cases hsplit : Text.splitOnce ':' cs with
    | none =>
      rw [hsplit] at h
      obtain ⟨rfl, rfl⟩ := Prod.mk.inj h
      exact .inr (.inr ⟨rfl, rfl⟩)
    | some p =>
      rw [hsplit] at h
      obtain rfl : p = (name, arg) := h
      exact .inr (.inl (Text.splitOnce_eq_some_iff.mp hsplit).1)

theorem parse_eq_ok_iff : parse text = .ok c ↔ ∃ name arg,
    splitName ((Text.trim text.toList).map Char.toUpper) = .ok (name, arg) ∧
      ofNameArg name arg = .ok c := by
  unfold parse
  cases splitName ((Text.trim text.toList).map Char.toUpper) with
  | error f => exact iff_of_false nofun fun ⟨_, _, h, _⟩ => nomatch h
  | ok p =>
    constructor
    · exact fun h => ⟨p.1, p.2, rfl, h⟩
    · rintro ⟨name, arg, hp, h⟩
      obtain rfl := Except.ok.inj hp
      exact h

theorem spells_of_parse (h : splitName cs = .ok (name, arg)) (hc : ofNameArg name arg = .ok c) :
    Spells cs c := by
  rcases ofNameArg_cases hc with ⟨n, rfl, hn, rfl⟩ | ⟨rfl, zone, rfl, hzone⟩
  · rcases splitName_cases h with rfl | rfl | ⟨rfl, -⟩
    · exact .token hn
    · exact .colon hn
    · exact .name hn
  · rcases splitName_cases h with rfl | rfl | ⟨rfl, rfl⟩
    · exact .zoneToken hzone
    · exact .zoneColon hzone
    · -- a zone is never empty
      obtain ⟨sign, digits, htrim, -, hne, -⟩ := hzone
      exact absurd (List.append_eq_nil_iff.mp htrim.symm).2 hne

theorem Spells.parse (h : Spells cs c) :
    ∃ name arg, splitName cs = .ok (name, arg) ∧ ofNameArg name arg = .ok c := by
  have hstart {n : String} {rest : List Char} (hn : (n, c) ∈ plainNames)
      (hrest : rest.head? ≠ some '<') : (n.toList ++ rest).head? ≠ some '<' := by
    obtain ⟨-, hopen, -⟩ := plainNames_clean _ hn
    rw [List.head?_append]
    intro heq
    rcases Option.or_eq_some_iff.mp heq with heq | ⟨-, heq⟩
    · exact hopen (List.mem_of_mem_head? heq)
    · exact hrest heq
  cases h with
  | @name n _ hn =>
    obtain ⟨hzone, -, -, hcolon⟩ := plainNames_clean _ hn
    have hhead : (n.toList ++ []).head? ≠ some '<' := hstart hn nofun
    rw [List.append_nil] at hhead
    exact ⟨_, _, splitName_alone hhead hcolon, (ofNameArg_eq_ok_iff hzone).mpr ⟨hn, rfl⟩⟩
  | colon hn =>
    obtain ⟨hzone, -, -, hcolon⟩ := plainNames_clean _ hn
    exact ⟨_, _, splitName_colon (hstart hn (by decide)) hcolon,
      (ofNameArg_eq_ok_iff hzone).mpr ⟨hn, rfl⟩⟩
  | token hn =>
    obtain ⟨hzone, -, hclose, -⟩ := plainNames_clean _ hn
    exact ⟨_, _, splitName_token hclose [], (ofNameArg_eq_ok_iff hzone).mpr ⟨hn, rfl⟩⟩
  | @zoneColon arg zone hzone =>
    have hsplit : splitName ("BYPASS".toList ++ ':' :: arg) = .ok ("BYPASS".toList, arg) :=
      splitName_colon (by simp) (by decide)
    exact ⟨_, _, hsplit, ofNameArg_bypass_eq_ok_iff.mpr ⟨zone, rfl, hzone⟩⟩
  | @zoneToken arg zone hzone =>
    have hsplit : splitName ('<' :: ("BYPASS".toList ++ '>' :: arg)) = .ok ("BYPASS".toList, arg) :=
      splitName_token (by decide) arg
    exact ⟨_, _, hsplit, ofNameArg_bypass_eq_ok_iff.mpr ⟨zone, rfl, hzone⟩⟩

theorem parse_iff_spells :
    Command.parse text = .ok c ↔ Spells ((Text.trim text.toList).map Char.toUpper) c := by
  rw [parse_eq_ok_iff]
  exact ⟨fun ⟨_, _, h, hc⟩ => spells_of_parse h hc, Spells.parse⟩

/-! ## Tokens -/

theorem toList_zoneText (zone : UInt8) : (zoneText zone).toList =
    if zone.toNat < 10 then '0' :: Text.decimal zone.toNat else Text.decimal zone.toNat := by
  unfold zoneText
  split
  · exact String.toList_append.trans (congrArg ('0' :: ·) String.toList_ofList)
  · exact String.toList_ofList

theorem isDigit_of_mem_zoneText {d : Char} (h : d ∈ (zoneText zone).toList) : d.isDigit = true := by
  rw [toList_zoneText] at h
  split at h
  · rcases List.mem_cons.mp h with rfl | h
    · decide
    · exact Text.isDigit_of_mem_decimal h
  · exact Text.isDigit_of_mem_decimal h

theorem spellsZone_zoneText (zone : UInt8) : SpellsZone (zoneText zone).toList zone := by
  have hblank : ∀ d ∈ (zoneText zone).toList, Text.isBlank d = false :=
    fun d hd => Text.isBlank_of_isDigit (isDigit_of_mem_zoneText hd)
  obtain ⟨hne, -, hvalue⟩ := Text.natural?_eq_some_iff.mp (Text.natural?_decimal zone.toNat)
  refine ⟨[], (zoneText zone).toList, Text.trim_eq_self_of_forall hblank, .inl rfl, ?_,
    fun d hd => isDigit_of_mem_zoneText hd, ?_⟩
  · rw [toList_zoneText]
    split
    · exact List.cons_ne_nil _ _
    · exact hne
  · -- a zero in front adds nothing
    rw [toList_zoneText]
    split <;> exact hvalue

theorem spells_token (c : Command) : Spells c.token.toList c := by
  have hplain (hc : (c.label, c) ∈ plainNames) (htoken : c.token = "<" ++ c.label ++ ">") :
      Spells c.token.toList c := by
    have htext : c.token.toList = '<' :: (c.label.toList ++ ['>']) := by
      rw [htoken, String.toList_append, String.toList_append]
      rfl
    rw [htext]
    exact .token hc
  cases c with
  | bypass zone =>
    have htext : (bypass zone).token.toList = "<BYPASS>".toList ++ (zoneText zone).toList :=
      String.toList_append
    rw [htext]
    exact .zoneToken (spellsZone_zoneText zone)
  | _ => exact hplain (by decide) rfl

/-- Whether a text is in capital letters already, and has no blank in it. -/
def IsClean (cs : List Char) : Prop := ∀ x ∈ cs, Text.isBlank x = false ∧ x.toUpper = x

instance (cs : List Char) : Decidable (IsClean cs) := List.decidableBAll _ cs

theorem token_clean (c : Command) : IsClean c.token.toList := by
  cases c with
  | bypass zone =>
    have hlead : IsClean "<BYPASS>".toList := by decide
    intro x hx
    rw [show (bypass zone).token = "<BYPASS>" ++ zoneText zone from rfl, String.toList_append] at hx
    rcases List.mem_append.mp hx with hx | hx
    · exact hlead x hx
    · have hdigit := isDigit_of_mem_zoneText hx
      exact ⟨Text.isBlank_of_isDigit hdigit, Text.toUpper_of_isDigit hdigit⟩
  | _ => decide

theorem parse_token (c : Command) : Command.parse c.token = .ok c := by
  have htrim : Text.trim c.token.toList = c.token.toList :=
    Text.trim_eq_self_of_forall fun x hx => (token_clean c x hx).1
  have hupper : c.token.toList.map Char.toUpper = c.token.toList :=
    (List.map_congr_left fun x hx => (token_clean c x hx).2).trans (List.map_id _)
  rw [parse_iff_spells, htrim, hupper]
  exact spells_token c

/-! ## Commands that are read -/

theorem read_eq_ok_iff : Command.read text = .ok c ↔ Command.parse text = .ok c := by
  unfold Command.read
  cases Command.parse text <;> simp

/-- A text is read as a command just if it spells it, whatever the case of its letters and the
blanks around it; any other is a fault that repeats the text. The token of a command is read as
that command. -/
theorem read_iff_spells :
    (∀ text c, Command.read text = .ok c ↔
      Spells ((Text.trim text.toList).map Char.toUpper) c) ∧
    (∀ text, (∀ c, ¬Spells ((Text.trim text.toList).map Char.toUpper) c) →
      ∃ reason, Command.read text = .error (.invalidCommand text reason)) ∧
    (∀ c : Command, Command.read c.token = .ok c) ∧
    ∀ x y before after before' after' : List Char,
      (∀ b ∈ before ++ after ++ before' ++ after', Text.isBlank b = true) →
      x.map Char.toLower = y.map Char.toLower → ∀ c,
        Command.read (String.ofList (before ++ x ++ after)) = .ok c ↔
          Command.read (String.ofList (before' ++ y ++ after')) = .ok c := by
  have hspells : ∀ text c, Command.read text = .ok c ↔
      Spells ((Text.trim text.toList).map Char.toUpper) c :=
    fun text c => read_eq_ok_iff.trans parse_iff_spells
  refine ⟨hspells, fun text hnone => ?_, fun c => read_eq_ok_iff.mpr (parse_token c), ?_⟩
  · cases hparse : Command.parse text with
    | ok c => exact absurd (parse_iff_spells.mp hparse) (hnone c)
    | error f => exact ⟨f.message, by rw [Command.read, hparse]⟩
  · intro x y before after before' after' hblank hcase c
    simp only [List.forall_mem_append] at hblank
    obtain ⟨⟨⟨hb, ha⟩, hb'⟩, ha'⟩ := hblank
    rw [hspells, hspells, String.toList_ofList, String.toList_ofList, Text.trim_around hb ha,
      Text.trim_around hb' ha', ← Text.trim_map_toUpper, ← Text.trim_map_toUpper,
      Text.map_toUpper_eq hcase]

end Command
end AlarmKeypad
