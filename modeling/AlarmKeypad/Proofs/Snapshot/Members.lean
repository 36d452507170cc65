import AlarmKeypad.DisplayMode
import AlarmKeypad.Proofs.Json.Recognition
import AlarmKeypad.Proofs.Snapshot
import Mathlib.Data.List.Count
import Mathlib.Data.List.Forall2
import Mathlib.Data.List.Perm.Basic
import Mathlib.Data.Option.Basic

namespace AlarmKeypad.Snapshot

open Json (Blank Key Member Value Writing)

/-! ## Members under their canonical keys -/

def canonical (m : Member) : Member := (canonicalKey m.1, m.2)

theorem isTyped_canonicalKey (k : String) : isTyped (canonicalKey k) = isTyped k := by
  have hfixed : canonicalKey (canonicalKey k) = canonicalKey k := by
    by_cases hk : k = armedHomeKey
    · subst hk
      rfl
    · have hself : canonicalKey k = k := if_neg hk
      rw [hself, hself]
  rw [isTyped, hfixed, isTyped]

theorem canonicalKey_of_untyped {k : String} (h : isTyped k = false) : canonicalKey k = k := by
  refine if_neg ?_
  rintro rfl
  exact absurd h (by decide)

theorem isTyped_of_mem_typedKeys : ∀ k ∈ typedKeys, isTyped k = true := by decide

theorem typedMembers_eq (members : List Member) :
    typedMembers members = (members.map canonical).filter fun m => isTyped m.1 := by
  rw [typedMembers, List.filter_map]
  refine congrArg _ (List.filter_congr fun m _ => ?_)
  exact (isTyped_canonicalKey m.1).symm

theorem untypedMembers_eq (members : List Member) :
    untypedMembers members = untypedMembers (members.map canonical) := by
  have hfilter : (members.filter fun m => !isTyped (canonical m).1) = untypedMembers members :=
    List.filter_congr fun m _ => congrArg _ (isTyped_canonicalKey m.1)
  have hself : ∀ m ∈ untypedMembers members, canonical m = m := by
    intro m hm
    have hkey : isTyped m.1 = false := by simpa using (List.mem_filter.mp hm).2
    exact Prod.ext (canonicalKey_of_untyped hkey) rfl
  rw [untypedMembers.eq_1 (members.map canonical), List.filter_map]
  change _ = (members.filter fun m => !isTyped (canonical m).1).map canonical
  rw [hfilter]
  exact ((List.map_congr_left hself).trans (List.map_id _)).symm

/-! ## Order and repetition -/

variable {s t : Snapshot} {xs ys : List Member}

/-- Members with the same typed ones make snapshots with the same fields, or none. -/
theorem ofMembers?_eq_of_typed (hp : (typedMembers xs).Perm (typedMembers ys)) :
    ofMembers? ys = (ofMembers? xs).map fun s =>
      { s with extra := Bindings.sort (Value.sortedMembers (untypedMembers ys)) } := by
  have hkeys : ((typedMembers xs).map Prod.fst).Nodup ↔ ((typedMembers ys).map Prod.fst).Nodup :=
    (hp.map Prod.fst).nodup_iff
  ext s
  rw [Option.map_eq_some_iff, ofMembers?_eq_some_iff]
  constructor
  · rintro ⟨hn, hflags, halpha, hevent, hextra⟩
    have hlookup := Bindings.lookup_perm hp (hkeys.mpr hn)
    simp only [readFlag?, readAlpha?, readEvent?, ← hlookup] at hflags halpha hevent
    refine ⟨{ s with extra := Bindings.sort (Value.sortedMembers (untypedMembers xs)) },
      ofMembers?_eq_some_iff.mpr ⟨hkeys.mpr hn, hflags, halpha, hevent, rfl⟩, ?_⟩
    rw [← hextra]
  · rintro ⟨u, hu, rfl⟩
    obtain ⟨hn, hflags, halpha, hevent, -⟩ := ofMembers?_eq_some_iff.mp hu
    have hlookup := Bindings.lookup_perm hp hn
    simp only [readFlag?, readAlpha?, readEvent?, hlookup] at hflags halpha hevent
    exact ⟨hkeys.mp hn, hflags, halpha, hevent, rfl⟩

/-- Members with different keys may come in any order, under either spelling. -/
theorem ofMembers?_eq_of_perm (hp : (xs.map canonical).Perm (ys.map canonical))
    (hn : ((xs.map canonical).map Prod.fst).Nodup) : ofMembers? xs = ofMembers? ys := by
  have htyped : (typedMembers xs).Perm (typedMembers ys) := by
    rw [typedMembers_eq, typedMembers_eq]
    exact hp.filter _
  have huntyped : Bindings.sort (Value.sortedMembers (untypedMembers xs)) =
      Bindings.sort (Value.sortedMembers (untypedMembers ys)) := by
    rw [Value.sortedMembers_eq, Value.sortedMembers_eq, untypedMembers_eq xs, untypedMembers_eq ys]
    refine Bindings.sort_eq_of_perm ((hp.filter _).map _) ?_
    rw [List.map_map]
    exact hn.sublist (List.filter_sublist.map Prod.fst)
  rw [ofMembers?_eq_of_typed htyped, ← huntyped]
  cases hs : ofMembers? xs with
  | none => rfl
  | some s =>
    obtain ⟨-, -, -, -, hextra⟩ := ofMembers?_eq_some_iff.mp hs
    rw [Option.map_some, ← hextra]

/-- A typed key occurs at most once in the members of a snapshot. -/
theorem count_le_one_of_ofMembers? (h : ofMembers? xs = some s) {k : String}
    (hk : isTyped k = true) : ((xs.map canonical).map Prod.fst).count k ≤ 1 := by
  have hkeys : (typedMembers xs).map Prod.fst =
      ((xs.map canonical).map Prod.fst).filter isTyped := by
    rw [typedMembers_eq]
    exact (List.filter_map (p := isTyped) (f := Prod.fst)).symm
  obtain ⟨hn, -⟩ := ofMembers?_eq_some_iff.mp h
  rw [hkeys] at hn
  rw [← List.count_filter hk]
  exact List.nodup_iff_count_le_one.mp hn k

/-- Of the members with an untyped key the last stays. -/
theorem lookup_extra (h : ofMembers? xs = some s) (k : String) :
    s.extra.lookup k = if isTyped k then none else (xs.reverse.lookup k).map Value.sorted := by
  obtain ⟨-, -, -, -, hextra⟩ := ofMembers?_eq_some_iff.mp h
  rw [hextra, Bindings.lookup_sort_eq_reverse, Value.sortedMembers_eq, ← List.map_reverse,
    Bindings.lookup_map, untypedMembers, ← List.filter_reverse,
    Bindings.lookup_filter fun k => !isTyped k]
  cases isTyped k <;> rfl

/-! ## Lines -/

/-- A member as it is written. -/
abbrev WrittenMember := Key × Writing

namespace WrittenMember

def key? (m : WrittenMember) : Option String := m.1.string?.map canonicalKey

/-- The member that is written, under its canonical key, however deep its value is nested. -/
def member? (m : WrittenMember) : Option Member :=
  Option.map₂ (fun k v => (canonicalKey k, v)) m.1.string? m.2.value?

def isTyped (m : WrittenMember) : Bool := m.1.string?.any Snapshot.isTyped

/-- The member is read as `x`: it has a key and a value, which is not nested too deep. -/
def ReadAs (m : WrittenMember) (x : Member) : Prop :=
  m.1.string? = some x.1 ∧ m.2.value? = some x.2 ∧ x.2.Within (Json.Reader.maxDepth - 1)

def Readable (m : WrittenMember) : Prop := ∃ x, m.ReadAs x

variable {m n : WrittenMember} {x : Member}

theorem ReadAs.member?_eq (h : m.ReadAs x) : m.member? = some (canonical x) := by
  rw [member?, h.1, h.2.1]
  rfl

/-- Whether a member can be read is seen from what is written. -/
theorem Readable.of_member?_eq (h : m.Readable) (heq : m.member? = n.member?) : n.Readable := by
  obtain ⟨x, hx⟩ := h
  rw [hx.member?_eq, member?, eq_comm, Option.map₂_eq_some_iff] at heq
  obtain ⟨k, v, hk, hv, heq⟩ := heq
  obtain rfl : v = x.2 := (Prod.mk.inj heq).2
  exact ⟨(k, x.2), hk, hv, hx.2.2⟩

/-- Either all members of a line are read, or some is not. -/
theorem exists_readAs_or (ms : List WrittenMember) :
    (∃ xs, List.Forall₂ ReadAs ms xs) ∨ ∃ m ∈ ms, ¬m.Readable := by
  by_cases h : ∀ m ∈ ms, m.Readable
  · refine .inl ?_
    induction ms with
    | nil => exact ⟨[], .nil⟩
    | cons m ms ih =>
      obtain ⟨x, hx⟩ := h m List.mem_cons_self
      obtain ⟨xs, hxs⟩ := ih fun n hn => h n (List.mem_cons_of_mem _ hn)
      exact ⟨x :: xs, .cons hx hxs⟩
  · push Not at h
    exact .inr h

/-- What cannot be read is not read behind other members either. -/
theorem exists_unreadable {ms ns : List WrittenMember} (h : ms.map member? ⊆ ns.map member?)
    (hm : ∃ m ∈ ms, ¬m.Readable) : ∃ n ∈ ns, ¬n.Readable := by
  obtain ⟨m, hm, hunreadable⟩ := hm
  obtain ⟨n, hn, heq⟩ := List.mem_map.mp (h (List.mem_map_of_mem hm))
  exact ⟨n, hn, fun hread => hunreadable (hread.of_member?_eq heq)⟩

section
variable {ms : List WrittenMember} {xs : List Member}

/-- All members are read if all have keys and values and no value is nested too deep. -/
theorem readAs_iff : List.Forall₂ ReadAs ms xs ↔
    List.Forall₂ (fun m x => m.1.string? = some x.1 ∧ m.2.value? = some x.2) ms xs ∧
      ∀ x ∈ xs, x.2.Within (Json.Reader.maxDepth - 1) := by
  constructor
  · intro h
    induction h with
    | nil => exact ⟨.nil, nofun⟩
    | cons hx _ ih => exact ⟨.cons ⟨hx.1, hx.2.1⟩ ih.1, List.forall_mem_cons.mpr ⟨hx.2.2, ih.2⟩⟩
  · rintro ⟨h, hd⟩
    induction h with
    | nil => exact .nil
    | cons hx _ ih =>
      obtain ⟨hd, hrest⟩ := List.forall_mem_cons.mp hd
      exact .cons ⟨hx.1, hx.2, hd⟩ (ih hrest)

theorem not_unreadable (h : List.Forall₂ ReadAs ms xs) : ¬∃ m ∈ ms, ¬m.Readable := by
  rintro ⟨m, hm, hunreadable⟩
  induction h with
  | nil => exact List.not_mem_nil hm
  | cons hx _ ih =>
    rcases List.mem_cons.mp hm with rfl | hm
    · exact hunreadable ⟨_, hx⟩
    · exact ih hm

theorem map_member? (h : List.Forall₂ ReadAs ms xs) :
    ms.map member? = (xs.map canonical).map some := by
  induction h with
  | nil => rfl
  | cons hx _ ih => rw [List.map_cons, List.map_cons, List.map_cons, hx.member?_eq, ih]

theorem map_key? (h : List.Forall₂ ReadAs ms xs) :
    ms.map key? = ((xs.map canonical).map Prod.fst).map some := by
  induction h with
  | nil => rfl
  | cons hx _ ih =>
    rw [List.map_cons, key?, hx.1, ih]
    rfl

theorem map_typed (h : List.Forall₂ ReadAs ms xs) :
    (ms.filter isTyped).map member? = (typedMembers xs).map some := by
  refine map_member? (List.rel_filter (fun m x hx => ?_) h)
  change m.1.string?.any Snapshot.isTyped = true ↔ _
  rw [hx.1, Option.any_some]

theorem lookup_of_readAs (h : List.Forall₂ ReadAs ms xs) (k : String) :
    xs.lookup k = (ms.find? fun m => m.1.string? == some k).bind fun m => m.2.value? := by
  induction h with
  | nil => rfl
  | @cons m x _ _ hx _ ih =>
    by_cases hk : k = x.1
    · subst hk
      have hkey : (m.1.string? == some x.1) = true := by rw [hx.1, beq_self_eq_true]
      simp only [List.find?_cons, hkey, Option.bind_some, hx.2.1]
      exact List.lookup_cons_self
    · have hkey : (m.1.string? == some k) = false := by
        rw [hx.1]
        simpa using Ne.symm hk
      simp only [List.find?_cons, hkey, Bindings.lookup_cons_of_ne hk, ih]

end

end WrittenMember

/-- A line of an object: how its members are written, the blanks of an object without members, and
the blanks and line ends behind it. -/
structure ObjectLine where
  inner : Blank
  members : List WrittenMember
  trail : Blank

namespace ObjectLine

open WrittenMember (ReadAs)

variable {a b l : ObjectLine} {xs ys : List Member}

def text (l : ObjectLine) : String :=
  String.ofList ((Writing.object l.inner l.members).text ++ l.trail.val)

def body (l : ObjectLine) : List Char :=
  (Writing.object l.inner l.members).text ++ Text.dropEndWhile isLineEnd l.trail.val

def snapshot? (l : ObjectLine) : Option Snapshot := Snapshot.parse? l.body

theorem exists_object_text_eq (b : Blank) (ms : List WrittenMember) :
    ∃ r, (Writing.object b ms).text = '\x7b' :: r ++ ['\x7d'] := by
  cases ms with
  | nil => exact ⟨_, rfl⟩
  | cons m ms => exact ⟨_, rfl⟩

/-- The line brings the snapshot that its body spells, or is refused as a snapshot. -/
theorem parse_text (l : ObjectLine) : Message.parse l.text =
    match l.snapshot? with
    | some s => .ok (some (.state s))
    | none => .error (.malformedSnapshot "not a snapshot object" (String.ofList l.body)) := by
  obtain ⟨r, hr⟩ := exists_object_text_eq l.inner l.members
  have hend : Text.dropEndWhile isLineEnd ((Writing.object l.inner l.members).text ++ l.trail.val) =
      l.body := by
    rw [body, hr, List.append_assoc, List.append_assoc]
    exact Text.dropEndWhile_append_cons (by decide) _ _
  have hbrace : ∃ r, l.body = '\x7b' :: r := by
    rw [body, hr]
    exact ⟨_, rfl⟩
  obtain ⟨r, hr⟩ := hbrace
  rw [Message.parse, text, String.toList_ofList, hend, snapshot?, hr]
  rfl

/-- The members are read one by one. -/
theorem value_iff : Value.parse? l.body = some (.object xs) ↔ List.Forall₂ ReadAs l.members xs := by
  have htrail : ∀ c ∈ Text.dropEndWhile isLineEnd l.trail.val, Json.Token.isSpace c = true :=
    fun c hc => l.trail.property c ((Text.dropEndWhile_sublist _ _).subset hc)
  have hbody : l.body =
      (Writing.spaced .none (.object l.inner l.members) ⟨_, htrail⟩).text := by
    rw [body, Writing.text]
    rfl
  rw [hbody, Json.parse?_text, Writing.value?, Writing.value?, Option.map_eq_some_iff]
  constructor
  · rintro ⟨⟨ys, hys, heq⟩, hd⟩
    obtain rfl : ys = xs := Value.object.inj heq
    cases hd with
    | object _ _ hd =>
      exact WrittenMember.readAs_iff.mpr ⟨Json.memberValues?_eq_some_iff.mp hys, hd⟩
  · intro h
    obtain ⟨hxs, hd⟩ := WrittenMember.readAs_iff.mp h
    exact ⟨⟨xs, Json.memberValues?_eq_some_iff.mpr hxs, rfl⟩, .object _ _ hd⟩

theorem snapshot?_of_readAs (h : List.Forall₂ ReadAs l.members xs) : l.snapshot? = ofMembers? xs := by
  rw [snapshot?, Snapshot.parse?, value_iff.mpr h]
  rfl

theorem snapshot?_of_unreadable (h : ∃ m ∈ l.members, ¬m.Readable) : l.snapshot? = none := by
  refine Option.eq_none_iff_forall_ne_some.mpr fun s hs => ?_
  obtain ⟨xs, hxs, -⟩ := exists_members_of_parse? hs
  exact WrittenMember.not_unreadable (value_iff.mp hxs) h

/-- Every line that brings a snapshot is the line of an object. -/
theorem exists_text_eq {line : String} (h : Message.parse line = .ok (some (.state s))) :
    ∃ l : ObjectLine, l.text = line := by
  obtain ⟨r, hbody, hr⟩ := body_of_message h
  obtain ⟨xs, hxs, -⟩ := exists_members_of_parse? hr
  obtain ⟨-, w, hw, hobject⟩ := Json.parse?_eq_some_iff.mp hxs
  obtain ⟨b, inner, ms, a, htext⟩ := Json.exists_object_of_value? hobject
  have hnil : b.val = [] := by
    cases hb : b.val with
    | nil => rfl
    | cons c cs =>
      rw [hb] at htext
      have hbrace : '\x7b' = c := Option.some.inj (congrArg List.head? (hw.trans htext))
      have hspace : Json.Token.isSpace c = true := b.property c (hb ▸ List.mem_cons_self)
      exact absurd (hbrace ▸ hspace) (by decide)
  have hends : ∀ c ∈ line.toList.rtakeWhile isLineEnd, Json.Token.isSpace c = true := by
    intro c hc
    have hend : c = '\r' ∨ c = '\n' := by simpa [isLineEnd] using List.mem_rtakeWhile_imp hc
    rcases hend with rfl | rfl <;> rfl
  have hsplit : Text.dropEndWhile isLineEnd line.toList ++ line.toList.rtakeWhile isLineEnd =
      line.toList := List.rdropWhile_append_rtakeWhile ..
  refine ⟨⟨inner, ms, ⟨a.val ++ line.toList.rtakeWhile isLineEnd,
    List.forall_mem_append.mpr ⟨a.property, hends⟩⟩⟩, ?_⟩
  rw [hnil, List.nil_append] at htext
  rw [text, ← List.append_assoc, ← htext, ← hw, ← hbody, hsplit, String.ofList_toList]

end ObjectLine

/-! ## What the members decide -/

/-- The line is refused as a snapshot. -/
def Malformed (line : String) : Prop :=
  ∃ reason text, Message.parse line = .error (.malformedSnapshot reason text)

/-- Either both lines bring snapshots, which are related, or both are refused as snapshots. -/
def Alike (R : Snapshot → Snapshot → Prop) (line line' : String) : Prop :=
  (∃ s t, Message.parse line = .ok (some (.state s)) ∧ Message.parse line' = .ok (some (.state t)) ∧
    R s t) ∨ (Malformed line ∧ Malformed line')

/-- The same fields, and so the same display mode; other members may differ. -/
def SameFields (s t : Snapshot) : Prop :=
  s.flag = t.flag ∧ s.alpha = t.alpha ∧ s.event = t.event ∧
    DisplayMode.ofState s = DisplayMode.ofState t

theorem sameFields_extra (s : Snapshot) (extra : List Member) : SameFields s { s with extra } :=
  ⟨rfl, rfl, rfl, rfl⟩

namespace ObjectLine

open WrittenMember (ReadAs)

variable {a b l : ObjectLine} {xs ys : List Member}

theorem state_iff : Message.parse l.text = .ok (some (.state s)) ↔ l.snapshot? = some s := by
  rw [parse_text]
  cases l.snapshot? <;> simp

theorem malformed_iff : Malformed l.text ↔ l.snapshot? = none := by
  rw [Malformed, parse_text]
  cases l.snapshot? <;> simp

theorem alike_of_rel {R : Snapshot → Snapshot → Prop} (h : Option.Rel R a.snapshot? b.snapshot?) :
    Alike R a.text b.text := by
  cases ha : a.snapshot? with
  | none =>
    cases hb : b.snapshot? with
    | none => exact .inr ⟨malformed_iff.mpr ha, malformed_iff.mpr hb⟩
    | some t =>
      rw [ha, hb] at h
      exact nomatch h
  | some s =>
    cases hb : b.snapshot? with
    | none =>
      rw [ha, hb] at h
      exact nomatch h
    | some t =>
      rw [ha, hb] at h
      cases h with
      | some h => exact .inl ⟨s, t, state_iff.mpr ha, state_iff.mpr hb, h⟩

def written (l : ObjectLine) : List (Option Member) := l.members.map WrittenMember.member?

def keys (l : ObjectLine) : List (Option String) := l.members.map WrittenMember.key?

def typed (l : ObjectLine) : List WrittenMember := l.members.filter WrittenMember.isTyped

def untyped (l : ObjectLine) : List WrittenMember := l.members.filter fun m => !m.isTyped

def last? (l : ObjectLine) (k : String) : Option Value :=
  (l.members.reverse.find? fun m => m.1.string? == some k).bind fun m => m.2.value?

theorem alike_of_perm (hp : a.written.Perm b.written) (hkeys : ∀ k, a.keys.count (some k) ≤ 1) :
    Alike (· = ·) a.text b.text := by
  refine alike_of_rel ?_
  rcases WrittenMember.exists_readAs_or a.members with ⟨xs, hxs⟩ | ha
  · rcases WrittenMember.exists_readAs_or b.members with ⟨ys, hys⟩ | hb
    · rw [written, written, WrittenMember.map_member? hxs, WrittenMember.map_member? hys,
        List.map_perm_map_iff (Option.some_injective _)] at hp
      have hn : ((xs.map canonical).map Prod.fst).Nodup := by
        refine List.nodup_iff_count_le_one.mpr fun k => ?_
        have hk := hkeys k
        rwa [keys, WrittenMember.map_key? hxs,
          List.count_map_of_injective _ _ (Option.some_injective _)] at hk
      rw [snapshot?_of_readAs hxs, snapshot?_of_readAs hys, ofMembers?_eq_of_perm hp hn]
      cases ofMembers? ys with
      | none => exact .none
      | some s => exact .some rfl
    · exact absurd (WrittenMember.exists_unreadable hp.symm.subset hb)
        (WrittenMember.not_unreadable hxs)
  · rw [snapshot?_of_unreadable ha,
      snapshot?_of_unreadable (WrittenMember.exists_unreadable hp.subset ha)]
    exact .none

theorem malformed_of_repeated {k : String} (hk : isTyped k = true)
    (h : 2 ≤ l.keys.count (some k)) : Malformed l.text := by
  refine malformed_iff.mpr (Option.eq_none_iff_forall_ne_some.mpr fun s hs => ?_)
  rcases WrittenMember.exists_readAs_or l.members with ⟨xs, hxs⟩ | hl
  · rw [snapshot?_of_readAs hxs] at hs
    rw [keys, WrittenMember.map_key? hxs,
      List.count_map_of_injective _ _ (Option.some_injective _)] at h
    have hle := count_le_one_of_ofMembers? hs hk
    omega
  · rw [snapshot?_of_unreadable hl] at hs
    exact nomatch hs

theorem extra_of_state (h : Message.parse l.text = .ok (some (.state s))) :
    Bindings.InOrder s.extra ∧
      ∀ k, s.extra.lookup k = if isTyped k then none else (l.last? k).map Value.sorted := by
  have hs := state_iff.mp h
  rcases WrittenMember.exists_readAs_or l.members with ⟨xs, hxs⟩ | hl
  · rw [snapshot?_of_readAs hxs] at hs
    obtain ⟨-, -, -, -, hextra⟩ := ofMembers?_eq_some_iff.mp hs
    refine ⟨hextra ▸ Bindings.inOrder_sort _, fun k => ?_⟩
    rw [lookup_extra hs, WrittenMember.lookup_of_readAs (List.rel_reverse hxs), last?]
  · rw [snapshot?_of_unreadable hl] at hs
    exact nomatch hs

/-- What cannot be read has a typed key if the members with other keys can be read. -/
theorem exists_unreadable_typed (h : ∀ m ∈ l.untyped, m.Readable)
    (hl : ∃ m ∈ l.members, ¬m.Readable) : ∃ m ∈ l.typed, ¬m.Readable := by
  obtain ⟨m, hm, hunreadable⟩ := hl
  refine ⟨m, List.mem_filter.mpr ⟨hm, ?_⟩, hunreadable⟩
  by_contra htyped
  exact hunreadable (h m (List.mem_filter.mpr ⟨hm, by simpa using htyped⟩))

theorem alike_of_typed (ha : ∀ m ∈ a.untyped, m.Readable) (hb : ∀ m ∈ b.untyped, m.Readable)
    (hp : (a.typed.map WrittenMember.member?).Perm (b.typed.map WrittenMember.member?)) :
    Alike SameFields a.text b.text := by
  have hunreadable {c d : ObjectLine} (hc : ∀ m ∈ c.untyped, m.Readable)
      (hcd : c.typed.map WrittenMember.member? ⊆ d.typed.map WrittenMember.member?)
      (h : ∃ m ∈ c.members, ¬m.Readable) : ∃ m ∈ d.members, ¬m.Readable := by
    obtain ⟨m, hm, hread⟩ :=
      WrittenMember.exists_unreadable hcd (exists_unreadable_typed hc h)
    exact ⟨m, (List.mem_filter.mp hm).1, hread⟩
  refine alike_of_rel ?_
  rcases WrittenMember.exists_readAs_or a.members with ⟨xs, hxs⟩ | hun
  · rcases WrittenMember.exists_readAs_or b.members with ⟨ys, hys⟩ | hun
    · rw [typed, typed, WrittenMember.map_typed hxs, WrittenMember.map_typed hys,
        List.map_perm_map_iff (Option.some_injective _)] at hp
      rw [snapshot?_of_readAs hxs, snapshot?_of_readAs hys, ofMembers?_eq_of_typed hp]
      cases ofMembers? xs with
      | none => exact .none
      | some s => exact .some (sameFields_extra s _)
    · exact absurd (hunreadable hb hp.symm.subset hun) (WrittenMember.not_unreadable hxs)
  · rw [snapshot?_of_unreadable hun, snapshot?_of_unreadable (hunreadable ha hp.subset hun)]
    exact .none

/-- Lines whose members are the same but for their order and the spelling of `armed_stay`, all with
different keys, bring the same snapshot or are both refused. A line with a typed key twice, in
whatever spellings, is refused. In a snapshot that a line brings, every other key is bound once, to
the last value it has in the line. Lines with the same typed members bring the same fields and mode
or are both refused, whatever other members there are, as long as these can be read. No line but that
of an object brings a snapshot. -/
theorem members_decide (a b : ObjectLine) :
    (a.written.Perm b.written → (∀ k, a.keys.count (some k) ≤ 1) →
      Alike (· = ·) a.text b.text) ∧
    (∀ k ∈ typedKeys, 2 ≤ a.keys.count (some k) → Malformed a.text) ∧
    (∀ s, Message.parse a.text = .ok (some (.state s)) → Bindings.InOrder s.extra ∧
      ∀ k, s.extra.lookup k = if Snapshot.isTyped k then none else (a.last? k).map Value.sorted) ∧
    ((∀ m ∈ a.untyped ++ b.untyped, m.Readable) →
      (a.typed.map WrittenMember.member?).Perm (b.typed.map WrittenMember.member?) →
      Alike SameFields a.text b.text) ∧
    ∀ line s, Message.parse line = .ok (some (.state s)) → ∃ l : ObjectLine, l.text = line := by
  refine ⟨alike_of_perm, fun k hk => malformed_of_repeated (isTyped_of_mem_typedKeys k hk),
    fun s hs => extra_of_state hs, fun hread hp => ?_, fun line s hs => exists_text_eq hs⟩
  obtain ⟨ha, hb⟩ := List.forall_mem_append.mp hread
  exact alike_of_typed ha hb hp

/-- Whether a character stands for itself in a string. -/
def isPlain (c : Char) : Bool := 0x20 ≤ c.toNat && c != '"' && c != '\\'

theorem isPlain_iff {c : Char} : isPlain c = true ↔ 0x20 ≤ c.toNat ∧ c ≠ '"' ∧ c ≠ '\\' := by
  simp [isPlain, and_assoc]

def plainKey (cs : List Char) (h : cs.all isPlain = true) : Key :=
  ⟨.none, cs.attach.map fun c => .char c.1 (isPlain_iff.mp (List.all_eq_true.mp h c.1 c.2)), .none⟩

def digit (c : Char) (h : c.isDigit = true) : Writing :=
  .number ⟨false, ⟨[c], by simp, by simp [h]⟩, none, none, by simp⟩

def home : WrittenMember := (plainKey "armed_home".toList (by decide), .bool true)

def stay : WrittenMember := (plainKey "armed_stay".toList (by decide), .bool true)

def one : WrittenMember := (plainKey "x".toList (by decide), digit '1' rfl)

def two : WrittenMember := (plainKey "x".toList (by decide), digit '2' rfl)

def homeFirst : ObjectLine := ⟨.none, [home, one], ⟨['\r', '\n'], by simp [Json.Token.isSpace]⟩⟩

def stayLast : ObjectLine := ⟨.none, [one, stay], .none⟩

def bothNames : ObjectLine := ⟨.none, [home, one, stay], .none⟩

def twoLast : ObjectLine := ⟨.none, [one, stay, two], .none⟩

theorem members_decide_home :
    homeFirst.text = "\x7b\"armed_home\":true,\"x\":1\x7d\r\n" ∧
    stayLast.text = "\x7b\"x\":1,\"armed_stay\":true\x7d" ∧
    twoLast.text = "\x7b\"x\":1,\"armed_stay\":true,\"x\":2\x7d" ∧
    Alike (· = ·) homeFirst.text stayLast.text ∧ Malformed bothNames.text ∧
    (∃ s, Message.parse twoLast.text = .ok (some (.state s)) ∧
      s.extra.lookup "x" = some (.int 2)) ∧
    Alike SameFields stayLast.text twoLast.text := by
  obtain ⟨horder, -⟩ := members_decide homeFirst stayLast
  obtain ⟨-, hboth, -⟩ := members_decide bothNames stayLast
  obtain ⟨-, -, hlast, -⟩ := members_decide twoLast stayLast
  obtain ⟨-, -, -, hunknown, -⟩ := members_decide stayLast twoLast
  have hkeys : homeFirst.keys.Nodup := by decide +kernel
  have hstate : Message.parse twoLast.text =
      .ok (some (.state ⟨fun f => f = .armedStay, "", none, [("x", .int 2)]⟩)) :=
    state_iff.mpr (by decide +kernel)
  have hread : ∀ m ∈ stayLast.untyped ++ twoLast.untyped, m.Readable := by
    have hone : one.Readable := ⟨("x", .int 1), by decide +kernel, by decide +kernel, .int _ _⟩
    have htwo : two.Readable := ⟨("x", .int 2), by decide +kernel, by decide +kernel, .int _ _⟩
    have huntyped : stayLast.untyped ++ twoLast.untyped = [one, one, two] := rfl
    rw [huntyped]
    simp only [List.forall_mem_cons]
    exact ⟨hone, hone, htwo, nofun⟩
  refine ⟨by decide +kernel, by decide +kernel, by decide +kernel, ?_, ?_, ?_, ?_⟩
  · exact horder (by decide +kernel) (List.nodup_iff_count_le_one.mp hkeys <| some ·)
  · exact hboth "armed_stay" (by decide +kernel) (by decide +kernel)
  · exact ⟨_, hstate, (hlast _ hstate).2 "x"⟩
  · exact hunknown hread (by decide +kernel)

end ObjectLine

end AlarmKeypad.Snapshot
