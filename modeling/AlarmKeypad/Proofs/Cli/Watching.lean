import AlarmKeypad.Cli.Program
import AlarmKeypad.Proofs.Gesture
/-!
# Watching a keypad

The steps of the interactive command. While it watches, any of what is ready may come first: a
notice, a cancellation or a key. A step has to do with an alarm action only if it cancels the taps
on it or handles a press of its key.
-/

namespace AlarmKeypad.Cli

open Session

/-- The answer to a tap on an action; that its taps are cancelled is no answer. -/
def Print.answer? (a : AlarmAction) : Print → Option Confirmation
  | .gesture b c => if b = a ∧ c ≠ .cancelled then some c else none
  | _ => none

def inputKey? : KeyInput → Option Key
  | .pressed k => some k
  | _ => none

inductive Choice where
  /-- The one that comes next. -/
  | next
  | hear
  | cancel
  | key
deriving DecidableEq

namespace Program

variable {a : AlarmAction} {p p' : Program} {s : State} {ms : List Move}

def isWatching (p : Program) : Bool :=
  match p.phase with
  | .watching => true
  | _ => false

/-- A step of the command. While it watches it may take any that is ready. -/
def step? (p : Program) (s : State) : Choice → Option (Program × List Move)
  | .next => p.act? s
  | .hear => if p.isWatching then (p.hear? s).map fun p => (p, []) else none
  | .cancel => if p.isWatching then (p.cancel? s.now).map fun p => (p, []) else none
  | .key => if p.isWatching then p.takeInput s else none

def answers (a : AlarmAction) (p : Program) : List Confirmation :=
  p.prints.reverse.filterMap (Print.answer? a)

theorem answers_print (x : Print) :
    (p.print x).answers a = p.answers a ++ (x.answer? a).toList := by
  unfold answers print
  rw [List.reverse_cons, List.filterMap_append]
  cases hx : x.answer? a <;> simp [hx]

theorem answers_print_of_none {x : Print} (hx : x.answer? a = none) :
    (p.print x).answers a = p.answers a := by
  rw [answers_print, hx, Option.toList_none, List.append_nil]

def keysTo (p p' : Program) : List Key :=
  (p.inputs.take (p.inputs.length - p'.inputs.length)).filterMap inputKey?

theorem keysTo_eq_nil (h : p'.inputs = p.inputs) : p.keysTo p' = [] := by
  simp [keysTo, h]

theorem keysTo_of_cons {i : KeyInput} (h : p.inputs = i :: p'.inputs) :
    p.keysTo p' = (inputKey? i).toList := by
  rw [keysTo, h, List.length_cons, Nat.add_sub_cancel_left]
  cases hi : inputKey? i <;> simp [hi]

/-- A step that leaves the keyboard, the taps and the answers to them alone, and raises no alarm. -/
structure Aside (p p' : Program) (ms : List Move) : Prop where
  task : p'.task = p.task
  inputs : p'.inputs = p.inputs
  gestures : p'.gestures = p.gestures
  answers : ∀ a, p'.answers a = p.answers a
  quiet : ∀ a : AlarmAction, .call (.command a.command.token) ∉ ms

namespace Aside

theorem goTo (h : Aside p p' ms) (phase : Phase) : Aside p (p'.goTo phase) ms :=
  ⟨h.task, h.inputs, h.gestures, h.answers, h.quiet⟩

theorem finish (h : Aside p p' ms) (r : Except CliFault Unit) : Aside p (p'.finish r) ms :=
  ⟨h.task, h.inputs, h.gestures, h.answers, h.quiet⟩

theorem print (h : Aside p p' ms) {x : Print} (hx : ∀ a, x.answer? a = none) :
    Aside p (p'.print x) ms :=
  ⟨h.task, h.inputs, h.gestures, fun a => (answers_print_of_none (hx a)).trans (h.answers a),
    h.quiet⟩

/-- A step that makes no call. -/
theorem still (p : Program) (hms : ∀ r, .call r ∉ ms) : Aside p p ms :=
  ⟨rfl, rfl, rfl, fun _ => rfl, fun _ => hms _⟩

theorem refl (p : Program) : Aside p p [] := still p fun _ => List.not_mem_nil

theorem hearing (p : Program) (n : Nat) : Aside p { p with heard := n } [] :=
  ⟨rfl, rfl, rfl, fun _ => rfl, fun _ => List.not_mem_nil⟩

theorem resume (p : Program) (id : Nat) : Aside p p [.resume id] := still p (by simp)

/-- A call that raises no alarm. -/
theorem begin (p : Program) {r : Request} (hr : ∀ a : AlarmAction, r ≠ .command a.command.token)
    (phase : Phase) : Aside p (p.goTo phase) [.call r] := by
  refine ⟨rfl, rfl, rfl, fun _ => rfl, fun a ha => hr a ?_⟩
  exact (Move.call.inj (List.mem_singleton.mp ha)).symm

theorem leave {o : Outcome} (h : p.leave s o = some (p', ms)) : Aside p p' ms := by
  obtain ⟨rfl, rfl⟩ := Prod.mk.inj (Option.some.inj h)
  exact begin p (by simp) _

theorem start (ht : p.task = .watch true) (h : p.start s = some (p', ms)) : Aside p p' ms := by
  unfold Program.start at h
  split at h
  · obtain ⟨rfl, rfl⟩ := Prod.mk.inj (Option.some.inj h)
    exact (refl p).finish _
  · rename_i heq
    exact nomatch ht.symm.trans heq
  · rename_i heq
    exact nomatch ht.symm.trans heq
  · obtain ⟨rfl, rfl⟩ := Prod.mk.inj (Option.some.inj h)
    exact ⟨rfl, rfl, rfl, fun _ => rfl, by simp⟩
  · rename_i hne
    exact absurd ht hne

theorem await {id : Nat} {next : Reply → Program} (hnext : ∀ r, Aside p (next r) [])
    (h : p.await s id next = some (p', ms)) : Aside p p' ms := by
  unfold Program.await at h
  split at h
  · obtain ⟨rfl, rfl⟩ := Prod.mk.inj (Option.some.inj h)
    exact hnext _
  · obtain ⟨-, hs⟩ := Option.ite_none_right_eq_some.mp h
    obtain ⟨rfl, rfl⟩ := Prod.mk.inj (Option.some.inj hs)
    exact resume p id

theorem afterConnect (r : Reply) :
    Aside p (p.afterConnect s r) [] := by
  cases r with
  | ok =>
    unfold Program.afterConnect started
    dsimp only
    split
    · exact (refl p).goTo _
    · exact (refl p).goTo _
    · exact (((hearing p _).print fun _ => rfl).print fun _ => rfl).goTo _
    · exact (refl p).goTo _
  | failed f => exact (refl p).finish _

theorem afterCall {purpose : Purpose} {r : Reply}
    (h : p.afterCall s purpose r = some (p', ms)) : Aside p p' ms := by
  unfold Program.afterCall at h
  split at h
  · exact leave h
  · exact leave h
  all_goals obtain ⟨rfl, rfl⟩ := Prod.mk.inj (Option.some.inj h)
  · exact ((refl p).print fun _ => rfl).goTo _
  · exact (refl p).goTo _
  · exact ((refl p).print fun _ => rfl).goTo _

theorem conclude (o : Outcome) : Aside p (p.conclude o) [] := by
  cases o with
  | ok => exact (refl p).finish _
  | mode snap => exact ((refl p).print fun _ => rfl).finish _
  | sent token => exact ((refl p).print fun _ => rfl).finish _
  | failed f => exact (refl p).finish _

/-- The next step of a command that does not watch. -/
theorem next (ht : p.task = .watch true) (hw : p.isWatching = false)
    (h : p.act? s = some (p', ms)) : Aside p p' ms := by
  unfold act? at h
  split at h
  · exact start ht h
  · exact await afterConnect h
  · exact absurd h (by simp [look, ht])
  · rename_i hp
    exact absurd hw (by simp [isWatching, hp])
  · split at h
    · exact afterCall h
    · obtain ⟨-, hs⟩ := Option.ite_none_right_eq_some.mp h
      obtain ⟨rfl, rfl⟩ := Prod.mk.inj (Option.some.inj hs)
      exact resume p _
  · exact await (fun _ => conclude _) h
  · exact nomatch h

end Aside

theorem token_injective {a b : AlarmAction} (h : a.command.token = b.command.token) :
    a = b := by
  cases a <;> cases b <;> first | rfl | exact absurd h (by decide)

/-- No button of any panel raises an alarm. -/
theorem button_token_ne {m : DisplayMode} {b : PanelButton}
    (hb : m.panel.primary = some b ∨ m.panel.secondary = some b) (a : AlarmAction) :
    b.command.token ≠ a.command.token := by
  cases m <;> cases a <;> rcases hb with hb | hb <;> cases hb <;> decide

theorem Aside.press {button : Option PanelButton}
    (hb : ∀ b, button = some b → ∀ a : AlarmAction, b.command.token ≠ a.command.token)
    (h : p.press s button = some (p', ms)) : Aside p p' ms := by
  cases button with
  | none =>
    obtain ⟨rfl, rfl⟩ := Prod.mk.inj (Option.some.inj h)
    exact (refl p).print fun _ => rfl
  | some b =>
    obtain ⟨rfl, rfl⟩ := Prod.mk.inj (Option.some.inj h)
    exact begin p (fun a heq => hb b rfl a (Request.command.inj heq)) _

/-- A key of the panel, the key to synchronize and the key to quit raise no alarm. -/
theorem Aside.key {x : KeyAction} (hx : ∀ a, x ≠ .tap a) (h : p.act s x = some (p', ms)) :
    Aside p p' ms := by
  cases x with
  | primary => exact press (fun b hb => button_token_ne (.inl hb)) h
  | secondary => exact press (fun b hb => button_token_ne (.inr hb)) h
  | tap a => exact absurd rfl (hx a)
  | resync =>
    obtain ⟨rfl, rfl⟩ := Prod.mk.inj (Option.some.inj h)
    exact begin p (by simp) _
  | quit => exact leave h

/-- A press of the key of an action, and its answer. -/
structure Taps (a : AlarmAction) (c : Confirmation) (p : Program) (s : State) (p' : Program)
    (ms : List Move) : Prop where
  answer : c = ((p.gestures.counter a).tap s.now p.gestures.window).1
  task : p'.task = p.task
  inputs : p'.inputs = p.inputs
  gestures : p'.gestures =
    p.gestures.setCounter a ((p.gestures.counter a).tap s.now p.gestures.window).2
  answers : ∀ b, p'.answers b = p.answers b ++ if a = b then [c] else []
  moves : ms = if c = .confirmed then [.call (.command a.command.token)] else []
  phase : c = .confirmed → p'.phase = .calling s.callCount (.key a.command)

theorem tap_ne_cancelled (c : TapCounter) (now window : Nat) :
    (c.tap now window).1 ≠ .cancelled := by
  unfold TapCounter.tap
  dsimp only
  split <;> nofun

theorem taps_act (h : p.act s (.tap a) = some (p', ms)) : ∃ c, Taps a c p s p' ms := by
  obtain ⟨c, hc⟩ : ∃ c, c = ((p.gestures.counter a).tap s.now p.gestures.window).1 := ⟨_, rfl⟩
  have hne : c ≠ .cancelled := hc ▸ tap_ne_cancelled _ _ _
  unfold act GestureConfirmer.tap at h
  dsimp only at h
  rw [← hc] at h
  have hanswers (b : AlarmAction) (q : Program) (hq : q.prints = p.prints) :
      (q.print (.gesture a c)).answers b = p.answers b ++ if a = b then [c] else [] := by
    have hsame : q.answers b = p.answers b := by rw [answers, answers, hq]
    rw [answers_print, hsame]
    by_cases hab : a = b <;> simp [Print.answer?, hab, hne]
  refine ⟨c, ?_⟩
  split at h
  · rename_i hconfirmed
    obtain ⟨rfl, rfl⟩ := Prod.mk.inj (Option.some.inj h)
    exact ⟨hc, rfl, rfl, rfl, fun b => hanswers b _ rfl, (if_pos hconfirmed).symm, fun _ => rfl⟩
  · rename_i hpending
    obtain ⟨rfl, rfl⟩ := Prod.mk.inj (Option.some.inj h)
    exact ⟨hc, rfl, rfl, rfl, fun b => hanswers b _ rfl, (if_neg hpending).symm,
      fun hconfirmed => absurd hconfirmed hpending⟩

inductive Effect (p : Program) (s : State) : Program → List Move → Prop
  | aside {p' : Program} {ms : List Move} (h : Aside p p' ms) : Effect p s p' ms
  /-- The taps on an action are cancelled; it is time. -/
  | cancels {b : AlarmAction} {d : Nat} (hd : (p.gestures.counter b).deadline = some d)
    (hdue : d ≤ s.now) :
    Effect p s ({ p with gestures := p.gestures.cancel b }.print (.gesture b .cancelled)) []
  /-- The first input is no tap. -/
  | drops {i : KeyInput} {r : List KeyInput} {p' : Program} {ms : List Move}
    (hi : p.inputs = i :: r)
    (hk : ∀ k, inputKey? i = some k → ∀ b, KeyAction.ofKey? k ≠ some (.tap b))
    (h : Aside { p with inputs := r } p' ms) : Effect p s p' ms
  | taps {k : Key} {r : List KeyInput} {b : AlarmAction} {c : Confirmation} {p' : Program}
    {ms : List Move} (hi : p.inputs = .pressed k :: r)
    (hk : KeyAction.ofKey? k = some (.tap b)) (h : Taps b c { p with inputs := r } s p' ms) :
    Effect p s p' ms

theorem effect_hear {p' : Program} (h : p.hear? s = some p') : Effect p s p' [] := by
  unfold hear? at h
  dsimp only at h
  split at h
  · exact nomatch h
  · rename_i n _ _
    obtain rfl := Option.some.inj h
    refine .aside ((Aside.hearing p _).print fun a => ?_)
    cases n <;> rfl

theorem effect_cancel {p' : Program} (h : p.cancel? s.now = some p') : Effect p s p' [] := by
  unfold cancel? at h
  split at h
  · rename_i hnext
    obtain ⟨hdue, hs⟩ := Option.ite_none_right_eq_some.mp h
    exact Option.some.inj hs ▸ .cancels (Gesture.nextDeadline_eq_some hnext) hdue
  · exact nomatch h

theorem effect_takeInput (h : p.takeInput s = some (p', ms)) : Effect p s p' ms := by
  unfold takeInput at h
  split at h
  · exact nomatch h
  · rename_i i r hi
    cases i with
    | pressed k =>
      dsimp only at h
      split at h
      · rename_i x hx
        by_cases htap : ∃ b, x = .tap b
        · obtain ⟨b, rfl⟩ := htap
          obtain ⟨c, hc⟩ := taps_act h
          exact .taps hi hx hc
        · refine .drops hi ?_ (Aside.key (fun b hb => htap ⟨b, hb⟩) h)
          rintro k ⟨⟩ b hb
          exact htap ⟨b, Option.some.inj (hx.symm.trans hb)⟩
      · rename_i hx
        obtain ⟨rfl, rfl⟩ := Prod.mk.inj (Option.some.inj h)
        refine .drops hi ?_ (.refl _)
        rintro k ⟨⟩ b hb
        exact nomatch hx.symm.trans hb
    | other =>
      obtain ⟨rfl, rfl⟩ := Prod.mk.inj (Option.some.inj h)
      exact .drops hi nofun (.refl _)
    | failed f => exact .drops hi nofun (.leave h)
    | ended => exact .drops hi nofun (.leave h)

theorem effect_watch (ht : p.task = .watch true) (h : p.watch s = some (p', ms)) :
    Effect p s p' ms := by
  unfold watch at h
  split at h
  · rename_i hhear
    obtain ⟨rfl, rfl⟩ := Prod.mk.inj (Option.some.inj h)
    exact effect_hear hhear
  · rename_i hcancel
    obtain ⟨rfl, rfl⟩ := Prod.mk.inj (Option.some.inj h)
    exact effect_cancel hcancel
  · rw [if_pos ht] at h
    exact effect_takeInput h

/-- Every step of the interactive command, whichever it takes. -/
theorem effect_step {c : Choice} (ht : p.task = .watch true) (h : p.step? s c = some (p', ms)) :
    Effect p s p' ms := by
  cases c with
  | next =>
    cases hw : p.isWatching with
    | false => exact .aside (Aside.next ht hw h)
    | true =>
      refine effect_watch ht ?_
      unfold isWatching at hw
      split at hw
      · rename_i hp
        change p.act? s = _ at h
        unfold act? at h
        rwa [hp] at h
      · exact nomatch hw
  | hear =>
    obtain ⟨-, hs⟩ := Option.ite_none_right_eq_some.mp h
    obtain ⟨q, hq, heq⟩ := Option.map_eq_some_iff.mp hs
    obtain ⟨rfl, rfl⟩ := Prod.mk.inj heq
    exact effect_hear hq
  | cancel =>
    obtain ⟨-, hs⟩ := Option.ite_none_right_eq_some.mp h
    obtain ⟨q, hq, heq⟩ := Option.map_eq_some_iff.mp hs
    obtain ⟨rfl, rfl⟩ := Prod.mk.inj heq
    exact effect_cancel hq
  | key => exact effect_takeInput (Option.ite_none_right_eq_some.mp h).2

end Program
end AlarmKeypad.Cli
