import AlarmKeypad.Message
import AlarmKeypad.Proofs.Json.Printing
import AlarmKeypad.Proofs.Text.Blank

namespace AlarmKeypad.Snapshot

open Json (Member Value)

def known (s : Snapshot) : List Member :=
  s.flagMembers Flag.beforeText ++ [(alphaKey, .string s.alpha)] ++
    s.flagMembers Flag.afterText ++ [(eventKey, s.event.elim .null .string)]

def knownKeys : List String :=
  Flag.beforeText.map Flag.key ++ [alphaKey] ++ Flag.afterText.map Flag.key ++ [eventKey]

variable (s : Snapshot)

theorem members_eq : s.members = s.known ++ s.extra := rfl

theorem map_fst_known : s.known.map Prod.fst = knownKeys := rfl

theorem nodup_knownKeys : knownKeys.Nodup := by decide

theorem isTyped_knownKeys : ∀ k ∈ knownKeys, isTyped k = true ∧ canonicalKey k = k := by decide

theorem lookup_flag (f : Flag) : s.known.lookup f.key = some (.bool (s.flag f)) := by
  cases f <;> rfl

theorem lookup_alpha : s.known.lookup alphaKey = some (.string s.alpha) := rfl

theorem lookup_event : s.known.lookup eventKey = some (s.event.elim .null .string) := rfl

variable {s} {members : List Member}

theorem isTyped_of_mem_known {m : Member} (hm : m ∈ s.known) :
    isTyped m.1 = true ∧ canonicalKey m.1 = m.1 :=
  isTyped_knownKeys m.1 (s.map_fst_known ▸ List.mem_map_of_mem hm)

theorem typedMembers_members (hx : ∀ m ∈ s.extra, isTyped m.1 = false) :
    typedMembers s.members = s.known := by
  have hknown : s.known.filter (fun m => isTyped m.1) = s.known :=
    List.filter_eq_self.mpr fun m hm => (isTyped_of_mem_known hm).1
  have hextra : s.extra.filter (fun m => isTyped m.1) = [] :=
    List.filter_eq_nil_iff.mpr fun m hm => by simp [hx m hm]
  rw [typedMembers, members_eq, List.filter_append, hknown, hextra, List.append_nil]
  refine (List.map_congr_left fun m hm => ?_).trans (List.map_id _)
  exact Prod.ext (isTyped_of_mem_known hm).2 rfl

/-- The members that no field is read from. -/
def untypedMembers (members : List Member) : List Member := members.filter fun m => !isTyped m.1

theorem untypedMembers_members (hx : ∀ m ∈ s.extra, isTyped m.1 = false) :
    untypedMembers s.members = s.extra := by
  have hknown : s.known.filter (fun m => !isTyped m.1) = [] :=
    List.filter_eq_nil_iff.mpr fun m hm => by simp [(isTyped_of_mem_known hm).1]
  have hextra : s.extra.filter (fun m => !isTyped m.1) = s.extra :=
    List.filter_eq_self.mpr fun m hm => by simp [hx m hm]
  rw [untypedMembers, members_eq, List.filter_append, hknown, hextra, List.nil_append]

theorem lookup_of_mapM {read? : Flag → Option Bool} {fs : List Flag} {values : List (Flag × Bool)}
    (h : fs.mapM (fun f => (read? f).map fun b => (f, b)) = some values) :
    ∀ f ∈ fs, read? f = some ((values.lookup f).getD false) := by
  induction fs generalizing values with
  | nil => nofun
  | cons g fs ih =>
    rw [List.mapM_cons] at h
    obtain ⟨v, hv, h⟩ := Option.bind_eq_some_iff.mp h
    obtain ⟨vs, hvs, h⟩ := Option.bind_eq_some_iff.mp h
    obtain ⟨b, hb, rfl⟩ := Option.map_eq_some_iff.mp hv
    obtain rfl := Option.some.inj h
    intro f hf
    by_cases hfg : f = g
    · rw [hfg, List.lookup_cons_self, hb]
      rfl
    · rw [List.lookup_cons, beq_false_of_ne hfg]
      exact ih hvs f ((List.mem_cons.mp hf).resolve_left hfg)

theorem mapM_eq_some {read? : Flag → Option Bool} {flag : Flag → Bool} (fs : List Flag)
    (h : ∀ f, read? f = some (flag f)) :
    fs.mapM (fun f => (read? f).map fun b => (f, b)) = some (fs.map fun f => (f, flag f)) := by
  simp only [h, Option.map_some]
  exact List.mapM_pure

/-- What a snapshot that is read from members holds. -/
theorem ofMembers?_eq_some_iff : ofMembers? members = some s ↔
    ((typedMembers members).map Prod.fst).Nodup ∧
      (∀ f, readFlag? (typedMembers members) f = some (s.flag f)) ∧
      readAlpha? (typedMembers members) = some s.alpha ∧
      readEvent? (typedMembers members) = some s.event ∧
      s.extra = Bindings.sort (Value.sortedMembers (untypedMembers members)) := by
  constructor
  · intro h
    unfold ofMembers? at h
    dsimp only at h
    split at h
    · rename_i hnodup
      simp only [Option.bind_eq_bind, Option.bind_eq_some_iff] at h
      obtain ⟨values, hvalues, alpha, halpha, event, hevent, hs⟩ := h
      obtain rfl := Option.some.inj hs
      exact ⟨hnodup, fun f => lookup_of_mapM hvalues f (Flag.mem_all f), halpha, hevent, rfl⟩
    · exact nomatch h
  · rintro ⟨hnodup, hflags, halpha, hevent, hextra⟩
    have hflag : (fun f => ((Flag.all.map fun f => (f, s.flag f)).lookup f).getD false) = s.flag := by
      funext f
      cases f <;> rfl
    simp only [ofMembers?, if_pos hnodup, mapM_eq_some Flag.all hflags, halpha,
      hevent, hflag, ← untypedMembers.eq_1, ← hextra, Option.bind_eq_bind, Option.bind_some]

/-- A snapshot whose other members are in order is read back from its members. -/
theorem ofMembers?_members (hx : ∀ m ∈ s.extra, isTyped m.1 = false)
    (hsort : Bindings.sort (Value.sortedMembers s.extra) = s.extra) :
    ofMembers? s.members = some s := by
  -- each field has its key once, and none of the other members has one
  have hnodup : (s.known.map Prod.fst).Nodup := s.map_fst_known ▸ nodup_knownKeys
  have hflags (f : Flag) : readFlag? s.known f = some (s.flag f) := by
    rw [readFlag?, lookup_flag]
  have halpha : readAlpha? s.known = some s.alpha := by
    rw [readAlpha?, lookup_alpha]
  have hevent : readEvent? s.known = some s.event := by
    rw [readEvent?, lookup_event]
    cases s.event <;> rfl
  rw [ofMembers?_eq_some_iff, typedMembers_members hx, untypedMembers_members hx]
  exact ⟨hnodup, hflags, halpha, hevent, hsort.symm⟩

/-- The other members of a snapshot that has been read: none has the key of a field, they are in
order on every level, and their values are those of members there were, sorted. -/
theorem extra_of_ofMembers? (h : ofMembers? members = some s) :
    (∀ m ∈ s.extra, ∃ x ∈ members, isTyped x.1 = false ∧ m = (x.1, x.2.sorted)) ∧
      Bindings.sort (Value.sortedMembers s.extra) = s.extra := by
  obtain ⟨-, -, -, -, hextra⟩ := ofMembers?_eq_some_iff.mp h
  constructor
  · intro m hm
    obtain ⟨x, hx, rfl⟩ := Value.exists_of_mem_sort (hextra ▸ hm)
    obtain ⟨hx, htyped⟩ := List.mem_filter.mp hx
    exact ⟨x, hx, by simpa using htyped, rfl⟩
  · rw [hextra]
    exact Value.sort_sortedMembers fun m _ => m.2.sorted_sorted

theorem exists_members_of_parse? {cs : List Char} (h : parse? cs = some s) :
    ∃ members, Value.parse? cs = some (.object members) ∧ ofMembers? members = some s := by
  obtain ⟨v, hv, h⟩ := Option.bind_eq_some_iff.mp h
  cases v with
  | object members => exact ⟨members, hv, h⟩
  | _ => exact nomatch h

theorem message_of_ofLine? {line : String} (h : ofLine? line = some s) :
    Message.parse line = .ok (some (.state s)) := by
  unfold ofLine? at h
  split at h
  · rename_i hm
    exact Option.some.inj h ▸ hm
  · exact nomatch h

/-- A line that brings a snapshot begins with a brace, and spells the snapshot up to its end. -/
theorem body_of_message {line : String} (h : Message.parse line = .ok (some (.state s))) :
    ∃ r, Text.dropEndWhile isLineEnd line.toList = '\x7b' :: r ∧ parse? ('\x7b' :: r) = some s := by
  unfold Message.parse Message.parseBody at h
  split at h
  · exact nomatch h
  · rename_i r hbody
    split at h
    · rename_i u hu
      obtain rfl : u = s := by simpa using h
      exact ⟨r, hbody, hbody ▸ hu⟩
    · exact nomatch h
  · exact nomatch h
  · exact nomatch h

theorem parse?_of_message {line : String} (h : Message.parse line = .ok (some (.state s))) :
    ∃ cs, parse? cs = some s := by
  obtain ⟨r, -, hr⟩ := body_of_message h
  exact ⟨_, hr⟩

/-- The fields are flags, texts and a missing tag. -/
theorem value_of_mem_known {m : Member} (hm : m ∈ s.known) :
    (∃ b, m.2 = .bool b) ∨ (∃ t, m.2 = .string t) ∨ m.2 = .null := by
  have hflags : ∀ fs, m ∈ s.flagMembers fs → ∃ b, m.2 = .bool b := by
    intro fs hm
    obtain ⟨f, -, rfl⟩ := List.mem_map.mp hm
    exact ⟨_, rfl⟩
  rw [known, List.mem_append, List.mem_append, List.mem_append, List.mem_singleton,
    List.mem_singleton] at hm
  rcases hm with ((hm | rfl) | hm) | rfl
  · exact .inl (hflags _ hm)
  · exact .inr (.inl ⟨_, rfl⟩)
  · exact .inl (hflags _ hm)
  · cases s.event with
    | none => exact .inr (.inr rfl)
    | some t => exact .inr (.inl ⟨t, rfl⟩)

theorem integral_members (hn : ∀ m ∈ s.extra, m.2.Integral) :
    (Value.object s.members).Integral := by
  refine .object _ fun m hm => ?_
  rcases List.mem_append.mp hm with hm | hm
  · rcases value_of_mem_known hm with ⟨b, hv⟩ | ⟨t, hv⟩ | hv
    · exact hv ▸ .bool b
    · exact hv ▸ .string t
    · exact hv ▸ .null
  · exact hn m hm

theorem within_members {n : Nat} (hd : ∀ m ∈ s.extra, m.2.Within n) :
    (Value.object s.members).Within (n + 1) := by
  refine .object n _ fun m hm => ?_
  rcases List.mem_append.mp hm with hm | hm
  · rcases value_of_mem_known hm with ⟨b, hv⟩ | ⟨t, hv⟩ | hv
    · exact hv ▸ .bool n b
    · exact hv ▸ .string n t
    · exact hv ▸ .null n
  · exact hd m hm

/-- A snapshot that has been read is read back from its text. -/
theorem parse?_render {cs : List Char} (h : parse? cs = some s)
    (hn : ∀ m ∈ s.extra, m.2.Integral) : parse? (Value.object s.members).render = some s := by
  obtain ⟨members, hv, hs⟩ := exists_members_of_parse? h
  obtain ⟨hextra, hsort⟩ := extra_of_ofMembers? hs
  have hdepth : ∀ m ∈ s.extra, m.2.Within (Json.Reader.maxDepth - 1) := by
    intro m hm
    obtain ⟨x, hx, -, rfl⟩ := hextra m hm
    cases Value.within_of_parse? hv with
    | object _ _ hw => exact (hw x hx).sorted
  have hread := Value.parse?_render (integral_members hn) (within_members hdepth)
  have htyped : ∀ m ∈ s.extra, isTyped m.1 = false := by
    intro m hm
    obtain ⟨x, -, hx, rfl⟩ := hextra m hm
    exact hx
  simp only [parse?, hread, Option.bind_eq_bind, Option.bind_some, ofMembers?_members htyped hsort]

/-- The text of a snapshot is that of an object with at least one member. -/
theorem exists_render_eq (s : Snapshot) :
    ∃ r, (Value.object s.members).render = '\x7b' :: r ++ ['\x7d'] :=
  ⟨_, rfl⟩

theorem message_text {cs : List Char} (h : parse? cs = some s)
    (hn : ∀ m ∈ s.extra, m.2.Integral) : Message.parse s.text = .ok (some (.state s)) := by
  obtain ⟨r, hr⟩ := s.exists_render_eq
  have hend : Text.dropEndWhile isLineEnd ('\x7b' :: r ++ ['\x7d']) = '\x7b' :: r ++ ['\x7d'] :=
    Text.dropEndWhile_append_cons (by decide) _ []
  have hparse := parse?_render h hn
  rw [hr] at hparse
  rw [Message.parse, text, Value.text, String.toList_ofList, hr, hend]
  simp only [Message.parseBody, List.cons_append] at hparse ⊢
  rw [hparse]

/-- A snapshot that a line has brought, with no numbers but integers in its other members, is
written as a text that starts like a snapshot and has no line end inside; that text brings the same
snapshot, and so it is written again. -/
theorem text_round_trip {line : String} (h : Message.parse line = .ok (some (.state s)))
    (hn : ∀ m ∈ s.extra, m.2.Integral) :
    (∃ r, s.text.toList = '\x7b' :: r) ∧ '\r' ∉ s.text.toList ∧ '\n' ∉ s.text.toList ∧
      Message.parse s.text = .ok (some (.state s)) ∧
      ∀ t, Message.parse s.text = .ok (some (.state t)) → t.text = s.text := by
  obtain ⟨cs, hcs⟩ := parse?_of_message h
  have hchars : s.text.toList = (Value.object s.members).render := String.toList_ofList
  have hgraphic := Json.graphic_render (integral_members hn)
  have hread := message_text hcs hn
  refine ⟨?_, ?_, ?_, hread, ?_⟩
  · obtain ⟨r, hr⟩ := s.exists_render_eq
    exact ⟨_, hchars.trans hr⟩
  · rw [hchars]
    exact fun hc => absurd (hgraphic _ hc) (by decide)
  · rw [hchars]
    exact fun hc => absurd (hgraphic _ hc) (by decide)
  · intro t ht
    obtain rfl : s = t := by simpa using hread.symm.trans ht
    rfl

/-- A missing tag, a second spelling, and other members that are nested, escaped and large. -/
def nestedLine : String :=
  "\x7b\"event\":null,\"armed_home\":true,\"z\":[1,\x7b\"b\":\"\\u0001\\ud83d\\ude00\"\x7d]," ++
    "\"a\":18446744073709551615\x7d\r\n"

def nested : Snapshot where
  flag f := f = .armedStay
  alpha := ""
  event := none
  extra := [("a", .int 18446744073709551615),
    ("z", .array [.int 1, .object [("b", .string "\x01😀")]])]

theorem text_round_trip_nested : Message.parse nestedLine = .ok (some (.state nested)) ∧
    (∀ m ∈ nested.extra, m.2.Integral) ∧
    Message.parse nested.text = .ok (some (.state nested)) := by
  have hline : Message.parse nestedLine = .ok (some (.state nested)) :=
    message_of_ofLine? (by decide +kernel)
  have hextra : ∀ m ∈ nested.extra, m.2.Integral := by
    simp only [nested, List.forall_mem_cons]
    refine ⟨.int _ (by decide) (by decide), .array _ ?_, nofun⟩
    simp only [List.forall_mem_cons]
    refine ⟨.int _ (by decide) (by decide), .object _ ?_, nofun⟩
    simp only [List.forall_mem_cons]
    exact ⟨.string _, nofun⟩
  obtain ⟨-, -, -, hread, -⟩ := text_round_trip hline hextra
  exact ⟨hline, hextra, hread⟩

end AlarmKeypad.Snapshot
