import AlarmKeypad.Session.State
/-!
# What a history tells

Views of a history of events, the last in front. That `e` happened after `past` is written
`e :: past <:+ h`: the events before `e` are those behind it.
-/

namespace AlarmKeypad.Session

/-- A line handed to a connection, whether or not it went over. -/
structure Handover where
  connection : Nat
  source : Source
  line : String
deriving DecidableEq

namespace Event

def published? : Event → Option ConnectionState
  | .published c => some c
  | _ => none

def opened? : Event → Option Nat
  | .opened c => some c
  | _ => none

def handover? : Event → Option Handover
  | .handed c source line | .handFailed c source line => some ⟨c, source, line⟩
  | _ => none

def called? : Event → Option Nat
  | .called id _ => some id
  | _ => none

def queued? : Event → Option Ticket
  | .queued x => some x
  | _ => none

def taken? : Event → Option Ticket
  | .stale x => some x
  | .handed _ (.call id) line | .handFailed _ (.call id) line => some ⟨id, line⟩
  | _ => none

def call? : Event → Option Nat
  | .called id _ | .returned id _ => some id
  | .queued x | .stale x => some x.call
  | .handed _ (.call id) _ | .handFailed _ (.call id) _ => some id
  | _ => none

def connection? : Event → Option Nat
  | .opened c | .drained c | .handed c .. | .handFailed c .. | .received c _ | .faulted c
  | .hungUp c | .closing c | .dropped c => some c
  | _ => none

def Breaks (c : Nat) : Event → Prop
  | .faulted d | .handFailed d .. => d = c
  | _ => False

def Ends (c : Nat) (e : Event) : Prop :=
  e.Breaks c ∨ e = .hungUp c ∨ e = .closing c ∨ e = .dropped c

theorem eq_of_queued {e : Event} {x : Ticket} (h : e.queued? = some x) : e = .queued x := by
  cases e with
  | queued y => exact congrArg queued (Option.some.inj h)
  | _ => exact nomatch h

theorem Breaks.connection {c : Nat} {e : Event} (h : e.Breaks c) : e.connection? = some c := by
  cases e <;> first | exact congrArg some h | exact h.elim

theorem Ends.connection {c : Nat} {e : Event} (h : e.Ends c) : e.connection? = some c := by
  rcases h with h | rfl | rfl | rfl
  · exact h.connection
  all_goals rfl

theorem connection_of_handover {e : Event} {o : Handover} (h : e.handover? = some o) :
    e.connection? = some o.connection := by
  cases e <;> grind [handover?, connection?]

end Event

/-- What the events of a history give, the first in front. -/
def collect {α : Type} (f : Event → Option α) : List Stamped → List α
  | [] => []
  | e :: h => collect f h ++ (f e.event).toList

section collect
variable {α : Type} {f : Event → Option α}

@[simp] theorem collect_nil : collect f [] = [] := rfl

@[simp] theorem collect_cons (e : Stamped) (h : List Stamped) :
    collect f (e :: h) = collect f h ++ (f e.event).toList := rfl

theorem collect_append (h h' : List Stamped) :
    collect f (h ++ h') = collect f h' ++ collect f h := by
  induction h with
  | nil => exact (List.append_nil _).symm
  | cons e h ih => rw [List.cons_append, collect_cons, collect_cons, ih, List.append_assoc]

theorem mem_collect {h : List Stamped} {a : α} :
    a ∈ collect f h ↔ ∃ e ∈ h, f e.event = some a := by
  induction h with
  | nil => simp
  | cons e h ih =>
    rw [collect_cons, List.mem_append, ih, Option.mem_toList]
    simp [or_comm]

/-- What the past gave comes first. -/
theorem collect_isPrefix {past h : List Stamped} (hp : past <:+ h) :
    collect f past <+: collect f h := by
  induction h with
  | nil => exact List.suffix_nil.mp hp ▸ List.prefix_refl _
  | cons e h ih =>
    rcases List.suffix_cons_iff.mp hp with rfl | hp
    · exact List.prefix_refl _
    · exact (ih hp).trans (List.prefix_append _ _)

theorem collect_map {β : Type} (g : α → β) (h : List Stamped) :
    collect (fun e => (f e).map g) h = (collect f h).map g := by
  induction h with
  | nil => rfl
  | cons e h ih =>
    rw [collect_cons, collect_cons, List.map_append, ih]
    cases f e.event <;> rfl

theorem exists_suffix_of_mem_collect {h : List Stamped} {a : α} (ha : a ∈ collect f h) :
    ∃ e past, e :: past <:+ h ∧ f e.event = some a := by
  obtain ⟨e, he, hf⟩ := mem_collect.mp ha
  obtain ⟨later, past, rfl⟩ := List.append_of_mem he
  exact ⟨e, past, List.suffix_append _ _, hf⟩

/-- What gives a value only once has one past. -/
theorem suffix_unique {h past past' : List Stamped} {e e' : Stamped} {a : α}
    (hn : (collect f h).Nodup) (he : e :: past <:+ h) (he' : e' :: past' <:+ h)
    (hf : f e.event = some a) (hf' : f e'.event = some a) : e = e' ∧ past = past' := by
  have hmem : ∀ {x : Stamped} {p h : List Stamped}, x :: p <:+ h → f x.event = some a →
      a ∈ collect f h := fun hx hfx => mem_collect.mpr ⟨_, hx.mem List.mem_cons_self, hfx⟩
  induction h with
  | nil => exact absurd (List.suffix_nil.mp he) (List.cons_ne_nil _ _)
  | cons x h ih =>
    rw [collect_cons, List.nodup_append] at hn
    obtain ⟨hn, -, hdisjoint⟩ := hn
    rcases List.suffix_cons_iff.mp he with heq | hs <;>
      rcases List.suffix_cons_iff.mp he' with heq' | hs'
    · exact List.cons.inj (heq.trans heq'.symm)
    · obtain ⟨rfl, -⟩ := List.cons.inj heq
      exact absurd rfl (hdisjoint a (hmem hs' hf') a (by simp [hf]))
    · obtain ⟨rfl, -⟩ := List.cons.inj heq'
      exact absurd rfl (hdisjoint a (hmem hs hf) a (by simp [hf']))
    · exact ih hn hs hs'

end collect

/-- The last state that was published. -/
def publishedIn (h : List Stamped) : ConnectionState :=
  (collect Event.published? h).getLast?.getD .disconnected

theorem publishedIn_cons_published (t : Nat) (c : ConnectionState) (h : List Stamped) :
    publishedIn (⟨t, .published c⟩ :: h) = c := by
  simp [publishedIn, Event.published?]

theorem publishedIn_cons {e : Stamped} {h : List Stamped} (he : e.event.published? = none) :
    publishedIn (e :: h) = publishedIn h := by
  simp [publishedIn, he]

def openIn : List Stamped → List Nat
  | [] => []
  | e :: h => match e.event with
    | .opened c => c :: openIn h
    | .dropped c => (openIn h).filter (· ≠ c)
    | _ => openIn h

theorem mem_opened_of_mem_openIn {h : List Stamped} {c : Nat} (hc : c ∈ openIn h) :
    c ∈ collect Event.opened? h := by
  induction h with
  | nil => exact hc
  | cons e h ih =>
    rw [collect_cons, List.mem_append]
    unfold openIn at hc
    split at hc
    · rename_i d hd
      rcases List.mem_cons.mp hc with rfl | hc
      · exact .inr (by simp [hd, Event.opened?])
      · exact .inl (ih hc)
    · exact .inl (ih ((List.mem_filter.mp hc).1))
    · exact .inl (ih hc)

def handoversOn (c : Nat) : List Stamped → List Handover :=
  collect fun e => e.handover?.filter (·.connection = c)

def pingsOn (c : Nat) (h : List Stamped) : Nat :=
  (handoversOn c h).countP (·.source = .heartbeat)

theorem mem_handoversOn {c : Nat} {o : Handover} {h : List Stamped} :
    o ∈ handoversOn c h ↔ o.connection = c ∧ ∃ e ∈ h, e.event.handover? = some o := by
  simp only [handoversOn, mem_collect, Option.filter_eq_some_iff, decide_eq_true_eq]
  constructor
  · rintro ⟨e, he, ho, hc⟩
    exact ⟨hc, e, he, ho⟩
  · rintro ⟨hc, e, he, ho⟩
    exact ⟨e, he, ho, hc⟩

theorem handoversOn_cons_of_handover {e : Stamped} {o : Handover} {h : List Stamped}
    (he : e.event.handover? = some o) :
    handoversOn o.connection (e :: h) = handoversOn o.connection h ++ [o] := by
  simp [handoversOn, he, Option.filter]

theorem pingsOn_cons_of_handover {e : Stamped} {o : Handover} {h : List Stamped}
    (he : e.event.handover? = some o) : pingsOn o.connection (e :: h) =
      pingsOn o.connection h + if o.source = .heartbeat then 1 else 0 := by
  simp [pingsOn, handoversOn_cons_of_handover he, List.countP_cons]

def Has (h : List Stamped) (e : Event) : Prop := e ∈ h.map Stamped.event

instance (h : List Stamped) (e : Event) : Decidable (Has h e) :=
  inferInstanceAs (Decidable (_ ∈ _))

theorem has_cons {x : Stamped} {h : List Stamped} {e : Event} :
    Has (x :: h) e ↔ e = x.event ∨ Has h e :=
  List.mem_cons

end AlarmKeypad.Session
