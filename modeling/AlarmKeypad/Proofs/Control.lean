import AlarmKeypad.Message
import AlarmKeypad.Proofs.Text.Blank
import AlarmKeypad.Proofs.Text.Numeral

namespace AlarmKeypad

open Text (dropEndWhile)

namespace ControlVerb

/-- The verbs with a meaning are those of their names. -/
theorem ofName_name {v : ControlVerb} (h : ∀ n, v ≠ other n) : ofName v.name = v := by
  cases v with
  | other n => exact absurd rfl (h n)
  | _ => rfl

theorem colon_not_mem_name {v : ControlVerb} (h : ∀ n, v ≠ other n) : ':' ∉ v.name.toList := by
  cases v with
  | other n => exact absurd rfl (h n)
  | _ => decide

end ControlVerb

namespace ControlLine

variable {c : ControlLine} {body : List Char}

/-- The lines that are built here. -/
inductive Built : ControlLine → Prop
  | sync (partition code) : Built (sync partition code)
  | ping (mask) : Built (ping mask)
  | pong (mask) : Built (pong mask)
  | send (command) : Built (send command)

theorem Built.verb_ne_other (h : Built c) (n : String) : c.verb ≠ .other n := by
  cases h <;> exact nofun

theorem toList_render (c : ControlLine) :
    c.render.toList = '!' :: (c.verb.name.toList ++ ':' :: c.payload.toList) := by
  simp [render]

/-- A line with an exclamation mark in front is a control line, whatever follows. -/
theorem parse_of_toList {line : String} (h : line.toList = '!' :: body) :
    Message.parse line = .ok (some (.control (ofBody (dropEndWhile isLineEnd body)))) := by
  rw [Message.parse, h, ← List.nil_append ('!' :: body),
    Text.dropEndWhile_append_cons (by decide : isLineEnd '!' = false)]
  rfl

theorem ofBody_append {name : List Char} (h : ':' ∉ name) (payload : List Char) :
    ofBody (name ++ ':' :: payload) = ⟨.ofName (String.ofList name), String.ofList payload⟩ := by
  rw [ofBody, Text.splitOnce_append h]
  rfl

theorem ofBody_of_not_mem (h : ':' ∉ body) : ofBody body = ⟨.ofName (String.ofList body), ""⟩ := by
  rw [ofBody, Text.splitOnce_eq_none_iff.mpr h]
  rfl

/-- A written line is read without the line ends behind its payload. -/
theorem parse_render (h : ':' ∉ c.verb.name.toList) : Message.parse c.render =
    .ok (some (.control ⟨.ofName c.verb.name,
      String.ofList (dropEndWhile isLineEnd c.payload.toList)⟩)) := by
  rw [parse_of_toList c.toList_render,
    Text.dropEndWhile_append_cons (by decide : isLineEnd ':' = false), ofBody_append h,
    String.ofList_toList]

/-- A written line is read back if its verb is the one of its name and no line end is behind its
payload. -/
theorem parse_render_of_clean (hcolon : ':' ∉ c.verb.name.toList)
    (hname : .ofName c.verb.name = c.verb)
    (hend : dropEndWhile isLineEnd c.payload.toList = c.payload.toList) :
    Message.parse c.render = .ok (some (.control c)) := by
  rw [parse_render hcolon, hname, hend, String.ofList_toList]

theorem dropEndWhile_isLineEnd_eq_self_iff {cs : List Char} :
    dropEndWhile isLineEnd cs = cs ↔ cs.getLast? ≠ some '\r' ∧ cs.getLast? ≠ some '\n' := by
  rw [Text.dropEndWhile_eq_self_iff]
  cases cs.getLast? with
  | none => simp
  | some c => simp [isLineEnd]

theorem parse_render_eq_iff (h : Built c) : Message.parse c.render = .ok (some (.control c)) ↔
    c.payload.toList.getLast? ≠ some '\r' ∧ c.payload.toList.getLast? ≠ some '\n' := by
  rw [← dropEndWhile_isLineEnd_eq_self_iff]
  have hcolon := ControlVerb.colon_not_mem_name h.verb_ne_other
  have hname := ControlVerb.ofName_name h.verb_ne_other
  refine ⟨fun hread => ?_, parse_render_of_clean hcolon hname⟩
  rw [parse_render hcolon, hname] at hread
  have hsame : ControlLine.mk c.verb (String.ofList (dropEndWhile isLineEnd c.payload.toList)) = c :=
    Message.control.inj (Option.some.inj (Except.ok.inj hread))
  have hpayload := congrArg (fun d => d.payload.toList) hsame
  rwa [String.toList_ofList] at hpayload

/-- What is read from a line without line ends at its end is written as a line that is read as the
same. -/
theorem parse_render_ofBody (h : dropEndWhile isLineEnd body = body) :
    Message.parse (ofBody body).render = .ok (some (.control (ofBody body))) := by
  by_cases hcolon : ':' ∈ body
  · obtain ⟨name, payload, rfl, hname⟩ := List.eq_append_cons_of_mem hcolon
    rw [Text.dropEndWhile_append_cons (by decide : isLineEnd ':' = false)] at h
    have hpayload := (List.cons.inj (List.append_cancel_left h)).2
    rw [ofBody_append hname]
    apply parse_render_of_clean
    · rwa [ControlVerb.name_ofName, String.toList_ofList]
    · rw [ControlVerb.name_ofName]
    · rwa [String.toList_ofList]
  · rw [ofBody_of_not_mem hcolon]
    apply parse_render_of_clean
    · rwa [ControlVerb.name_ofName, String.toList_ofList]
    · rw [ControlVerb.name_ofName]
    · rfl

theorem toList_payload_sync (partition code : UInt32) : (sync partition code).payload.toList =
    Text.decimal partition.toNat ++ ',' :: Text.decimal code.toNat := by
  simp [sync, Text.decimalString]

theorem number?_decimal (n : UInt32) : number? (Text.decimal n.toNat) = some n := by
  have hblank : ∀ c ∈ Text.decimal n.toNat, Text.isBlank c = false :=
    fun c hc => Text.isBlank_of_isDigit (Text.isDigit_of_mem_decimal hc)
  have hle : n.toNat ≤ UInt32.size - 1 := Nat.le_sub_one_of_lt n.toNat_lt
  rw [number?, Text.trim_eq_self_of_forall hblank, Text.bounded?_decimal hle, Option.map_some,
    Nat.toUInt32_eq, UInt32.ofNat_toNat]

theorem syncTarget?_sync (partition code : UInt32) :
    (sync partition code).syncTarget? = some (partition, code) := by
  have hcomma : ',' ∉ Text.decimal partition.toNat :=
    fun hmem => absurd (Text.isDigit_of_mem_decimal hmem) (by decide)
  have hverb : (sync partition code).verb = .sync := rfl
  rw [syncTarget?, if_pos hverb, toList_payload_sync, Text.splitOnce_append hcomma]
  simp [number?_decimal]

/-- The numbers of a SYNC line end in a digit. -/
theorem parse_render_sync (partition code : UInt32) : Message.parse (sync partition code).render =
    .ok (some (.control (sync partition code))) := by
  have hdigits : dropEndWhile isLineEnd (Text.decimal code.toNat) = Text.decimal code.toNat := by
    refine Text.dropEndWhile_eq_self_iff.mpr fun c hc => ?_
    have hdigit := Text.isDigit_of_mem_decimal (List.mem_of_mem_getLast? hc)
    simp only [isLineEnd, Bool.or_eq_false_iff, beq_eq_false_iff_ne]
    constructor <;> rintro rfl <;> exact absurd hdigit (by decide)
  have hcolon := ControlVerb.colon_not_mem_name (Built.sync partition code).verb_ne_other
  refine parse_render_of_clean hcolon rfl ?_
  rw [toList_payload_sync, Text.dropEndWhile_append_cons (by decide : isLineEnd ',' = false),
    hdigits]

/-- A control line that is built here is read back as it was if and only if its payload does not end
in a line end; a SYNC line always is, and has its two numbers still. Any line behind an exclamation
mark is a control line, and that is written as a line that is read as the same. Line ends behind a
line, as many as there may be, change neither its message nor its fault. -/
theorem round_trip :
    (∀ c, Built c → (Message.parse c.render = .ok (some (.control c)) ↔
      c.payload.toList.getLast? ≠ some '\r' ∧ c.payload.toList.getLast? ≠ some '\n')) ∧
    (∀ partition code, ∃ c,
      Message.parse (sync partition code).render = .ok (some (.control c)) ∧
        c.syncTarget? = some (partition, code)) ∧
    (∀ (line : String) (body : List Char), line.toList = '!' :: body → ∃ c,
      Message.parse line = .ok (some (.control c)) ∧
        Message.parse c.render = .ok (some (.control c))) ∧
    ∀ line ends : String, (∀ c ∈ ends.toList, c = '\r' ∨ c = '\n') →
      Message.parse (line ++ ends) = Message.parse line := by
  refine ⟨fun c h => parse_render_eq_iff h, fun partition code => ?_, fun line body h => ?_,
    fun line ends h => ?_⟩
  · exact ⟨_, parse_render_sync partition code, syncTarget?_sync partition code⟩
  · exact ⟨_, parse_of_toList h, parse_render_ofBody (Text.dropEndWhile_idempotent isLineEnd body)⟩
  · have hends : ∀ c ∈ ends.toList, isLineEnd c = true := fun c hc => by
      simpa [isLineEnd] using h c hc
    rw [Message.parse, Message.parse, String.toList_append, Text.dropEndWhile_append hends]

end ControlLine
end AlarmKeypad
