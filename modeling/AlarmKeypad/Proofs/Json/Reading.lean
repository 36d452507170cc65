import AlarmKeypad.Json.Reader
import AlarmKeypad.Proofs.Json.Value

namespace AlarmKeypad.Json

namespace Value

mutual

/-- The tokens that a value is written with. -/
def tokens : Value → List Token
  | .null => [.null]
  | .bool b => [.bool b]
  | .int n => [.int n]
  | .float x => [.float x]
  | .string s => [.string s]
  | .array [] => [.beginArray, .endArray]
  | .array (v :: r) => .beginArray :: v.tokens ++ itemTokens r ++ [.endArray]
  | .object [] => [.beginObject, .endObject]
  | .object ((k, v) :: r) =>
    .beginObject :: .string k :: .colon :: v.tokens ++ memberTokens r ++ [.endObject]

def itemTokens : List Value → List Token
  | [] => []
  | v :: r => .comma :: v.tokens ++ itemTokens r

def memberTokens : List (String × Value) → List Token
  | [] => []
  | (k, v) :: r => .comma :: .string k :: .colon :: v.tokens ++ memberTokens r

end

end Value

namespace Reader

variable {stack : List Frame}

theorem run_append (r : Reader) (ts us : List Token) :
    r.run (ts ++ us) = (r.run ts).bind fun r => r.run us :=
  List.foldlM_append

theorem run_cons (r : Reader) (t : Token) (ts : List Token) :
    r.run (t :: ts) = (r.step t).bind fun r => r.run ts := rfl

/-! ## From the tokens of a value to the value -/

theorem exists_tokens_eq_cons (v : Value) : ∃ t ts, v.tokens = t :: ts ∧ t ≠ .endArray := by
  cases v with
  | array items => cases items <;> exact ⟨.beginArray, _, rfl, nofun⟩
  | object members => cases members <;> exact ⟨.beginObject, _, rfl, nofun⟩
  | _ => exact ⟨_, [], rfl, nofun⟩

/-- The first item of an array is read like any other. -/
theorem run_firstItem (v : Value) :
    run ⟨.firstItem, stack⟩ v.tokens = run ⟨.value, .array [] :: stack⟩ v.tokens := by
  obtain ⟨t, ts, hv, ht⟩ := exists_tokens_eq_cons v
  have hstep : step ⟨.firstItem, stack⟩ t = step ⟨.value, .array [] :: stack⟩ t := by
    cases t <;> first | rfl | exact absurd rfl ht
  rw [hv, run_cons, run_cons, hstep]

/-- An array goes on with its first item, if it may be opened. -/
theorem run_array_cons (v : Value) (items : List Value) :
    run ⟨.value, stack⟩ (Value.array (v :: items)).tokens =
      if stack.length < maxDepth then
        (run ⟨.value, .array [] :: stack⟩ v.tokens).bind fun r =>
          r.run (Value.itemTokens items ++ [.endArray])
      else none := by
  rw [Value.tokens, List.cons_append, List.cons_append, run_cons]
  change (if _ then some _ else none : Option Reader).bind _ = _
  split
  · rw [Option.bind_some, List.append_assoc, run_append, run_firstItem]
  · rfl

theorem run_object_cons (k : String) (v : Value) (members : List Member) :
    run ⟨.value, stack⟩ (Value.object ((k, v) :: members)).tokens =
      if stack.length < maxDepth then
        (run ⟨.value, .object [] k :: stack⟩ v.tokens).bind fun r =>
          r.run (Value.memberTokens members ++ [.endObject])
      else none := by
  have hkey : run ⟨.firstKey, stack⟩ [.string k, .colon] =
      some ⟨.value, .object [] k :: stack⟩ := rfl
  have hsplit : (Value.object ((k, v) :: members)).tokens = .beginObject ::
      ([.string k, .colon] ++ (v.tokens ++ (Value.memberTokens members ++ [.endObject]))) := by
    simp only [Value.tokens, List.cons_append, List.append_assoc, List.nil_append]
  rw [hsplit, run_cons]
  change (if _ then some _ else none : Option Reader).bind _ = _
  split
  · rw [Option.bind_some, run_append, hkey, Option.bind_some, run_append]
  · rfl

/-- The item in hand joins those that have been read, the last in front. -/
theorem run_items_cons (v x : Value) (items read : List Value) :
    run ⟨.after v, .array read :: stack⟩ (Value.itemTokens (x :: items) ++ [.endArray]) =
      (run ⟨.value, .array (v :: read) :: stack⟩ x.tokens).bind fun r =>
        r.run (Value.itemTokens items ++ [.endArray]) := by
  have hcomma : step ⟨.after v, .array read :: stack⟩ .comma =
      some ⟨.value, .array (v :: read) :: stack⟩ := rfl
  rw [Value.itemTokens, List.cons_append, List.cons_append, run_cons, hcomma, Option.bind_some,
    List.append_assoc, run_append]

theorem run_members_cons (k l : String) (v x : Value) (members read : List Member) :
    run ⟨.after v, .object read k :: stack⟩
        (Value.memberTokens ((l, x) :: members) ++ [.endObject]) =
      (run ⟨.value, .object ((k, v) :: read) l :: stack⟩ x.tokens).bind fun r =>
        r.run (Value.memberTokens members ++ [.endObject]) := by
  have hkey : run ⟨.after v, .object read k :: stack⟩ [.comma, .string l, .colon] =
      some ⟨.value, .object ((k, v) :: read) l :: stack⟩ := rfl
  have hsplit : Value.memberTokens ((l, x) :: members) ++ [.endObject] =
      [.comma, .string l, .colon] ++
        (x.tokens ++ (Value.memberTokens members ++ [.endObject])) := by
    simp only [Value.memberTokens, List.cons_append, List.append_assoc, List.nil_append]
  rw [hsplit, run_append, hkey, Option.bind_some, run_append]

/-- What the machine does with the tokens of a value, whatever is open. -/
def Reads (n : Nat) (v : Value) : Prop :=
  ∀ stack : List Frame, n + stack.length ≤ maxDepth →
    run ⟨.value, stack⟩ v.tokens = some ⟨.after v, stack⟩

theorem run_items {n : Nat} {items : List Value} (hi : ∀ v ∈ items, Reads n v)
    (hn : n + (stack.length + 1) ≤ maxDepth) (v : Value) (read : List Value) :
    run ⟨.after v, .array read :: stack⟩ (Value.itemTokens items ++ [.endArray]) =
      some ⟨.after (.array (read.reverse ++ v :: items)), stack⟩ := by
  induction items generalizing v read with
  | nil =>
    have hclose : run ⟨.after v, .array read :: stack⟩ [.endArray] =
        some ⟨.after (.array (v :: read).reverse), stack⟩ := rfl
    rw [Value.itemTokens, List.nil_append, hclose, List.reverse_cons]
  | cons x r ih =>
    rw [run_items_cons, hi x List.mem_cons_self (.array (v :: read) :: stack) hn, Option.bind_some,
      ih fun y hy => hi y (List.mem_cons_of_mem _ hy), List.reverse_cons, List.append_assoc]
    rfl

theorem run_members {n : Nat} {members : List Member} (hm : ∀ m ∈ members, Reads n m.2)
    (hn : n + (stack.length + 1) ≤ maxDepth) (k : String) (v : Value) (read : List Member) :
    run ⟨.after v, .object read k :: stack⟩ (Value.memberTokens members ++ [.endObject]) =
      some ⟨.after (.object (read.reverse ++ (k, v) :: members)), stack⟩ := by
  induction members generalizing k v read with
  | nil =>
    have hclose : run ⟨.after v, .object read k :: stack⟩ [.endObject] =
        some ⟨.after (.object ((k, v) :: read).reverse), stack⟩ := rfl
    rw [Value.memberTokens, List.nil_append, hclose, List.reverse_cons]
  | cons m r ih =>
    rw [run_members_cons, hm m List.mem_cons_self (.object ((k, v) :: read) m.1 :: stack) hn,
      Option.bind_some, ih fun y hy => hm y (List.mem_cons_of_mem _ hy), List.reverse_cons,
      List.append_assoc]
    rfl

theorem reads {n : Nat} {v : Value} (h : v.Within n) : Reads n v := by
  intro stack hn
  induction h generalizing stack with
  | array n items _ ih =>
    have hlt : stack.length < maxDepth := by omega
    cases items with
    | nil =>
      have hopen : step ⟨.value, stack⟩ .beginArray = some ⟨.firstItem, stack⟩ := if_pos hlt
      rw [Value.tokens, run_cons, hopen]
      rfl
    | cons v r =>
      have hfirst := ih v List.mem_cons_self (.array [] :: stack) (by rw [List.length_cons]; omega)
      rw [run_array_cons, if_pos hlt, hfirst, Option.bind_some,
        run_items (fun x hx => ih x (List.mem_cons_of_mem _ hx)) (by omega)]
      rfl
  | object n members _ ih =>
    have hlt : stack.length < maxDepth := by omega
    cases members with
    | nil =>
      have hopen : step ⟨.value, stack⟩ .beginObject = some ⟨.firstKey, stack⟩ := if_pos hlt
      rw [Value.tokens, run_cons, hopen]
      rfl
    | cons m r =>
      obtain ⟨k, v⟩ := m
      have hfirst := ih (k, v) List.mem_cons_self (.object [] k :: stack)
        (by rw [List.length_cons]; omega)
      rw [run_object_cons, if_pos hlt, hfirst, Option.bind_some,
        run_members (fun x hx => ih x (List.mem_cons_of_mem _ hx)) (by omega)]
      rfl
  | _ => rfl

/-! ## Nothing else comes of the tokens of a value -/

/-- The machine takes the tokens of a value for that value or refuses them, whatever is open. -/
def ReadsOnly (v : Value) : Prop :=
  ∀ stack r, run ⟨.value, stack⟩ v.tokens = some r → r = ⟨.after v, stack⟩

theorem run_items_only {items : List Value} (hi : ∀ v ∈ items, ReadsOnly v) {v : Value}
    {read : List Value} {r : Reader}
    (h : run ⟨.after v, .array read :: stack⟩ (Value.itemTokens items ++ [.endArray]) = some r) :
    r = ⟨.after (.array (read.reverse ++ v :: items)), stack⟩ := by
  induction items generalizing v read with
  | nil =>
    obtain rfl : (⟨.after (.array (v :: read).reverse), stack⟩ : Reader) = r := Option.some.inj h
    rw [List.reverse_cons]
  | cons x items ih =>
    rw [run_items_cons] at h
    obtain ⟨u, hu, h⟩ := Option.bind_eq_some_iff.mp h
    obtain rfl := hi x List.mem_cons_self _ _ hu
    rw [ih (fun y hy => hi y (List.mem_cons_of_mem _ hy)) h, List.reverse_cons, List.append_assoc]
    rfl

theorem run_members_only {members : List Member} (hm : ∀ m ∈ members, ReadsOnly m.2) {k : String}
    {v : Value} {read : List Member} {r : Reader}
    (h : run ⟨.after v, .object read k :: stack⟩ (Value.memberTokens members ++ [.endObject]) =
      some r) :
    r = ⟨.after (.object (read.reverse ++ (k, v) :: members)), stack⟩ := by
  induction members generalizing k v read with
  | nil =>
    obtain rfl : (⟨.after (.object ((k, v) :: read).reverse), stack⟩ : Reader) = r :=
      Option.some.inj h
    rw [List.reverse_cons]
  | cons m members ih =>
    rw [run_members_cons] at h
    obtain ⟨u, hu, h⟩ := Option.bind_eq_some_iff.mp h
    obtain rfl := hm m List.mem_cons_self _ _ hu
    rw [ih (fun y hy => hm y (List.mem_cons_of_mem _ hy)) h, List.reverse_cons, List.append_assoc]
    rfl

theorem readsOnly (v : Value) : ReadsOnly v := by
  induction v using Value.induct with
  | array items ih =>
    intro stack r h
    cases items with
    | nil =>
      obtain ⟨u, hu, h⟩ := Option.bind_eq_some_iff.mp h
      obtain ⟨-, rfl⟩ := (Option.ite_none_right_eq_some.mp hu).imp_right Option.some.inj
      exact (Option.some.inj h).symm
    | cons v items =>
      rw [run_array_cons] at h
      obtain ⟨-, h⟩ := Option.ite_none_right_eq_some.mp h
      obtain ⟨u, hu, h⟩ := Option.bind_eq_some_iff.mp h
      obtain rfl := ih v List.mem_cons_self _ _ hu
      exact run_items_only (fun x hx => ih x (List.mem_cons_of_mem _ hx)) h
  | object members ih =>
    intro stack r h
    cases members with
    | nil =>
      obtain ⟨u, hu, h⟩ := Option.bind_eq_some_iff.mp h
      obtain ⟨-, rfl⟩ := (Option.ite_none_right_eq_some.mp hu).imp_right Option.some.inj
      exact (Option.some.inj h).symm
    | cons m members =>
      rw [run_object_cons] at h
      obtain ⟨-, h⟩ := Option.ite_none_right_eq_some.mp h
      obtain ⟨u, hu, h⟩ := Option.bind_eq_some_iff.mp h
      obtain rfl := ih m List.mem_cons_self _ _ hu
      exact run_members_only (fun x hx => ih x (List.mem_cons_of_mem _ hx)) h
  | _ =>
    intro stack r h
    exact (Option.some.inj h).symm

end Reader

/-! ## No value is nested too deep -/

/-- Everything that an open array or object holds is nested no deeper than `n`. -/
def Frame.Within (n : Nat) : Frame → Prop
  | .array items => ∀ v ∈ items, v.Within n
  | .object members _ => ∀ m ∈ members, m.2.Within n

namespace Reader

variable {stack : List Frame}

/-- Whether nothing that is open holds a value that is nested too deep for its place. -/
def Bounded : List Frame → Prop
  | [] => True
  | f :: stack =>
    stack.length < maxDepth ∧ f.Within (maxDepth - (stack.length + 1)) ∧ Bounded stack

/-- The same of what the machine has in hand. -/
def Holds (stack : List Frame) : Expect → Prop
  | .value => True
  | .firstItem | .firstKey => stack.length < maxDepth
  | .key members | .colon members _ =>
    stack.length < maxDepth ∧ ∀ m ∈ members, m.2.Within (maxDepth - (stack.length + 1))
  | .after v => v.Within (maxDepth - stack.length)

def Sound (r : Reader) : Prop := Bounded r.stack ∧ Holds r.stack r.expect

/-- The depth that is left for what is opened next. -/
theorem depth_eq (h : stack.length < maxDepth) :
    maxDepth - stack.length = maxDepth - (stack.length + 1) + 1 := by
  omega

theorem sound_beginValue {t : Token} {r : Reader} (hs : Bounded stack)
    (h : beginValue t stack = some r) : r.Sound := by
  cases t with
  | null => exact Option.some.inj h ▸ ⟨hs, .null _⟩
  | bool b => exact Option.some.inj h ▸ ⟨hs, .bool _ b⟩
  | int n => exact Option.some.inj h ▸ ⟨hs, .int _ n⟩
  | float x => exact Option.some.inj h ▸ ⟨hs, .float _ x⟩
  | string s => exact Option.some.inj h ▸ ⟨hs, .string _ s⟩
  | beginArray | beginObject =>
    obtain ⟨hlt, rfl⟩ := (Option.ite_none_right_eq_some.mp h).imp_right Option.some.inj
    exact ⟨hs, hlt⟩
  | _ => exact nomatch h

theorem sound_endValue {v : Value} {t : Token} {r : Reader} (hs : Bounded stack)
    (hv : v.Within (maxDepth - stack.length)) (h : endValue v t stack = some r) : r.Sound := by
  unfold endValue at h
  split at h
  · -- a comma in an array
    obtain ⟨hlt, hf, hstack⟩ := hs
    obtain rfl := Option.some.inj h
    exact ⟨⟨hlt, List.forall_mem_cons.mpr ⟨hv, hf⟩, hstack⟩, trivial⟩
  · -- the end of an array
    obtain ⟨hlt, hf, hstack⟩ := hs
    obtain rfl := Option.some.inj h
    refine ⟨hstack, ?_⟩
    rw [Holds, depth_eq hlt]
    refine .array _ _ fun x hx => ?_
    rcases List.mem_cons.mp (List.mem_reverse.mp hx) with rfl | hx
    · exact hv
    · exact hf x hx
  · -- a comma in an object
    obtain ⟨hlt, hf, hstack⟩ := hs
    obtain rfl := Option.some.inj h
    exact ⟨hstack, hlt, List.forall_mem_cons.mpr ⟨hv, hf⟩⟩
  · -- the end of an object
    obtain ⟨hlt, hf, hstack⟩ := hs
    obtain rfl := Option.some.inj h
    refine ⟨hstack, ?_⟩
    rw [Holds, depth_eq hlt]
    refine .object _ _ fun x hx => ?_
    rcases List.mem_cons.mp (List.mem_reverse.mp hx) with rfl | hx
    · exact hv
    · exact hf x hx
  · exact nomatch h

theorem Sound.step {r r' : Reader} {t : Token} (hr : r.Sound) (h : r.step t = some r') :
    r'.Sound := by
  obtain ⟨expect, stack⟩ := r
  obtain ⟨hs, hold⟩ := hr
  unfold Reader.step at h
  dsimp only at h hs hold
  split at h
  · exact sound_beginValue hs h
  · obtain rfl := Option.some.inj h
    refine ⟨hs, ?_⟩
    rw [Holds, depth_eq hold]
    exact .array _ _ nofun
  · have hopened : Bounded (.array [] :: stack) := ⟨hold, nofun, hs⟩
    exact sound_beginValue hopened h
  · obtain rfl := Option.some.inj h
    refine ⟨hs, ?_⟩
    rw [Holds, depth_eq hold]
    exact .object _ _ nofun
  · exact Option.some.inj h ▸ ⟨hs, hold, nofun⟩
  · exact Option.some.inj h ▸ ⟨hs, hold⟩
  · exact Option.some.inj h ▸ ⟨⟨hold.1, hold.2, hs⟩, trivial⟩
  · exact sound_endValue hs hold h
  · exact nomatch h

theorem Sound.run {r r' : Reader} {ts : List Token} (hr : r.Sound) (h : r.run ts = some r') :
    r'.Sound := by
  induction ts generalizing r with
  | nil => exact Option.some.inj h ▸ hr
  | cons t ts ih =>
    obtain ⟨u, hu, h⟩ := Option.bind_eq_some_iff.mp h
    exact ih (hr.step hu) h

/-! ## The tokens that have been taken -/

/-- The items of an open array, each with a comma behind it. -/
def itemsTaken (items : List Value) : List Token :=
  .beginArray :: items.flatMap fun v => v.tokens ++ [.comma]

def membersTaken (members : List Member) : List Token :=
  .beginObject :: members.flatMap fun m => .string m.1 :: .colon :: m.2.tokens ++ [.comma]

def Frame.taken : Frame → List Token
  | .array items => itemsTaken items.reverse
  | .object members k => membersTaken members.reverse ++ [.string k, .colon]

def Expect.taken : Expect → List Token
  | .value => []
  | .firstItem => [.beginArray]
  | .firstKey => [.beginObject]
  | .key members => membersTaken members.reverse
  | .colon members k => membersTaken members.reverse ++ [.string k]
  | .after v => v.tokens

def taken (r : Reader) : List Token := r.stack.reverse.flatMap Frame.taken ++ Expect.taken r.expect

theorem itemTokens_concat (v : Value) (items : List Value) :
    .comma :: (items.flatMap fun v => v.tokens ++ [.comma]) ++ v.tokens =
      Value.itemTokens (items ++ [v]) := by
  induction items with
  | nil => simp [Value.itemTokens]
  | cons x r ih =>
    change _ = .comma :: x.tokens ++ Value.itemTokens (r ++ [v])
    rw [← ih]
    simp only [List.flatMap_cons, List.append_assoc, List.cons_append, List.nil_append]

theorem tokens_array_concat (v : Value) (items : List Value) :
    itemsTaken items ++ v.tokens ++ [.endArray] = (Value.array (items ++ [v])).tokens := by
  cases items with
  | nil => simp [itemsTaken, Value.tokens, Value.itemTokens]
  | cons x r =>
    rw [List.cons_append, Value.tokens, ← itemTokens_concat]
    simp only [itemsTaken, List.flatMap_cons, List.append_assoc, List.cons_append, List.nil_append]

theorem memberTokens_concat (k : String) (v : Value) (members : List Member) :
    .comma :: (members.flatMap fun m => .string m.1 :: .colon :: m.2.tokens ++ [.comma]) ++
        .string k :: .colon :: v.tokens =
      Value.memberTokens (members ++ [(k, v)]) := by
  induction members with
  | nil => simp [Value.memberTokens]
  | cons m r ih =>
    obtain ⟨l, x⟩ := m
    change _ = .comma :: .string l :: .colon :: x.tokens ++ Value.memberTokens (r ++ [(k, v)])
    rw [← ih]
    simp only [List.flatMap_cons, List.append_assoc, List.cons_append, List.nil_append]

theorem tokens_object_concat (k : String) (v : Value) (members : List Member) :
    membersTaken members ++ .string k :: .colon :: v.tokens ++ [.endObject] =
      (Value.object (members ++ [(k, v)])).tokens := by
  cases members with
  | nil => simp [membersTaken, Value.tokens, Value.memberTokens]
  | cons m r =>
    obtain ⟨l, x⟩ := m
    rw [List.cons_append, Value.tokens, ← memberTokens_concat]
    simp only [membersTaken, List.flatMap_cons, List.append_assoc, List.cons_append,
      List.nil_append]

theorem taken_beginValue {t : Token} {r : Reader} (h : beginValue t stack = some r) :
    r.taken = stack.reverse.flatMap Frame.taken ++ [t] := by
  cases t with
  | null | bool b | int n | float x | string s => exact Option.some.inj h ▸ rfl
  | beginArray | beginObject =>
    obtain ⟨-, rfl⟩ := (Option.ite_none_right_eq_some.mp h).imp_right Option.some.inj
    rfl
  | _ => exact nomatch h

theorem taken_endValue {v : Value} {t : Token} {r : Reader} (h : endValue v t stack = some r) :
    r.taken = stack.reverse.flatMap Frame.taken ++ v.tokens ++ [t] := by
  unfold endValue at h
  split at h
  · obtain rfl := Option.some.inj h
    simp [taken, Frame.taken, Expect.taken, itemsTaken]
  · obtain rfl := Option.some.inj h
    simp [taken, Frame.taken, Expect.taken, ← tokens_array_concat]
  · obtain rfl := Option.some.inj h
    simp [taken, Frame.taken, Expect.taken, membersTaken]
  · obtain rfl := Option.some.inj h
    simp [taken, Frame.taken, Expect.taken, ← tokens_object_concat]
  · exact nomatch h

theorem taken_step {r r' : Reader} {t : Token} (h : r.step t = some r') :
    r'.taken = r.taken ++ [t] := by
  obtain ⟨expect, stack⟩ := r
  unfold step at h
  dsimp only at h
  split at h
  · rw [taken_beginValue h]
    simp [taken, Expect.taken]
  · obtain rfl := Option.some.inj h
    simp [taken, Expect.taken, Value.tokens]
  · rw [taken_beginValue h]
    simp [taken, Frame.taken, Expect.taken, itemsTaken]
  · obtain rfl := Option.some.inj h
    simp [taken, Expect.taken, Value.tokens]
  · obtain rfl := Option.some.inj h
    simp [taken, Expect.taken, membersTaken]
  · obtain rfl := Option.some.inj h
    simp [taken, Expect.taken]
  · obtain rfl := Option.some.inj h
    simp [taken, Frame.taken, Expect.taken]
  · rw [taken_endValue h]
    simp [taken, Expect.taken]
  · cases h

theorem taken_run {r r' : Reader} {ts : List Token} (h : r.run ts = some r') :
    r'.taken = r.taken ++ ts := by
  induction ts generalizing r with
  | nil => exact Option.some.inj h ▸ (List.append_nil _).symm
  | cons t ts ih =>
    obtain ⟨u, hu, h⟩ := Option.bind_eq_some_iff.mp h
    rw [ih h, taken_step hu, List.append_assoc]
    rfl

end Reader

namespace Value

theorem within_of_ofTokens? {ts : List Token} {v : Value} (h : ofTokens? ts = some v) :
    v.Within Reader.maxDepth := by
  obtain ⟨r, hr, h⟩ := Option.bind_eq_some_iff.mp h
  have hsound : r.Sound := Reader.Sound.run (r := .start) ⟨trivial, trivial⟩ hr
  obtain ⟨expect, stack⟩ := r
  unfold Reader.result? at h
  split at h
  · rename_i hexpect hstack
    obtain rfl := Option.some.inj h
    obtain rfl : expect = .after _ := hexpect
    obtain rfl : stack = [] := hstack
    exact hsound.2
  · exact nomatch h

theorem within_of_parse? {cs : List Char} {v : Value} (h : parse? cs = some v) :
    v.Within Reader.maxDepth := by
  obtain ⟨ts, -, h⟩ := Option.bind_eq_some_iff.mp h
  exact within_of_ofTokens? h

/-- The tokens of a value are read as that value, unless it is nested too deep. -/
theorem ofTokens?_tokens {u v : Value} :
    ofTokens? v.tokens = some u ↔ v = u ∧ v.Within Reader.maxDepth := by
  constructor
  · intro h
    obtain ⟨r, hr, hu⟩ := Option.bind_eq_some_iff.mp h
    obtain rfl := Reader.readsOnly v [] r hr
    obtain rfl : v = u := Option.some.inj hu
    exact ⟨rfl, within_of_ofTokens? h⟩
  · rintro ⟨rfl, hd⟩
    have hrun : Reader.start.run v.tokens = some ⟨.after v, []⟩ :=
      Reader.reads hd [] (Nat.le_refl _)
    rw [ofTokens?, hrun]
    rfl

/-- Only the tokens of a value are read as that value. -/
theorem eq_tokens_of_ofTokens? {ts : List Token} {v : Value} (h : ofTokens? ts = some v) :
    ts = v.tokens := by
  obtain ⟨r, hr, h⟩ := Option.bind_eq_some_iff.mp h
  have htaken := Reader.taken_run hr
  obtain ⟨expect, stack⟩ := r
  unfold Reader.result? at h
  split at h
  · rename_i hexpect hstack
    obtain rfl := Option.some.inj h
    obtain rfl : expect = .after _ := hexpect
    obtain rfl : stack = [] := hstack
    exact htaken.symm
  · exact nomatch h

end Value
end AlarmKeypad.Json
