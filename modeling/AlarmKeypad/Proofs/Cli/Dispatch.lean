import AlarmKeypad.Cli.Program
import AlarmKeypad.Proofs.Session.Finishing
import AlarmKeypad.Proofs.Session.Modes
import AlarmKeypad.Proofs.Session.VirtualTime
/-!
# A command beside the session of its keypad

The steps of a command and the turns of the session that it works on, in any order. A command that
is on time lets no time pass while it has something to do; the session may still be late.
-/

namespace AlarmKeypad.Cli

open Session

structure Dispatch where
  program : Program
  session : State
  /-- The moves that the command has decided on and not made. -/
  due : List Move

namespace Dispatch

inductive Turn where
  /-- The session or the device moves, a call goes on, or time passes. -/
  | session (t : Session.Turn)
  /-- The command takes its next step. -/
  | act
  /-- The command makes its next move. -/
  | make
deriving DecidableEq

def isCall : Session.Turn → Bool
  | .move (.call _) => true
  | _ => false

theorem isUncalled_of_isCall {t : Session.Turn} (h : ¬isCall t = true) : t.IsUncalled := by
  rintro r rfl
  exact h rfl

def turn? (e : Dispatch) : Turn → Option Dispatch
  | .session t => if isCall t then none else some { e with session := e.session.turn t }
  | .act =>
    match e.due with
    | [] => (e.program.act? e.session).map fun r => ⟨r.1, e.session, r.2⟩
    | _ :: _ => none
  | .make =>
    match e.due with
    | [] => none
    | m :: ms => some ⟨e.program, e.session.turn (.move m), ms⟩

def turn (e : Dispatch) (t : Turn) : Dispatch := (e.turn? t).getD e

def run (e : Dispatch) (ts : List Turn) : Dispatch := ts.foldl turn e

@[simp] theorem run_nil (e : Dispatch) : e.run [] = e := rfl

@[simp] theorem run_cons (e : Dispatch) (t : Turn) (ts : List Turn) :
    e.run (t :: ts) = (e.turn t).run ts := rfl

theorem run_append (e : Dispatch) (ts us : List Turn) : e.run (ts ++ us) = (e.run ts).run us :=
  List.foldl_append

theorem turn_eq {e e' : Dispatch} {t : Turn} (h : e.turn? t = some e') : e.turn t = e' := by
  simp [turn, h]

theorem turn_eq_self {e : Dispatch} {t : Turn} (h : e.turn? t = none) : e.turn t = e := by
  simp [turn, h]

/-- The session takes at most one turn in a turn of both. -/
theorem session_turn {e e' : Dispatch} {t : Turn} (h : e.turn? t = some e') :
    e'.session = e.session ∨ ∃ u, e'.session = e.session.turn u := by
  obtain ⟨program, s, due⟩ := e
  cases t with
  | session u =>
    obtain ⟨-, he⟩ := Option.ite_none_left_eq_some.mp h
    exact Option.some.inj he ▸ .inr ⟨u, rfl⟩
  | act =>
    cases due with
    | cons m ms => exact nomatch h
    | nil =>
      obtain ⟨r, -, rfl⟩ := Option.map_eq_some_iff.mp h
      exact .inl rfl
  | make =>
    cases due with
    | nil => exact nomatch h
    | cons m ms => exact Option.some.inj h ▸ .inr ⟨.move m, rfl⟩

/-- What every possible turn keeps holds after a run. -/
theorem run_induction {P : Dispatch → Prop} {e : Dispatch}
    (step : ∀ e t e', P e → e.turn? t = some e' → P e') (h : P e) (ts : List Turn) :
    P (e.run ts) := by
  induction ts generalizing e with
  | nil => exact h
  | cons t ts ih =>
    apply ih
    unfold turn
    cases ht : e.turn? t with
    | none => exact h
    | some e' => exact step e t e' h ht

/-- A state that the session comes to. -/
def Reached (k : KeypadSettings) (s : State) : Prop := ∃ us, s = (State.init k).run us

namespace Reached

variable {k : KeypadSettings} {s : State}

theorem tracked (h : Reached k s) : s.Tracked := by
  obtain ⟨us, rfl⟩ := h
  exact State.run_tracked k us

theorem held (h : Reached k s) : s.Held := by
  obtain ⟨us, rfl⟩ := h
  exact State.run_held k us

theorem accounted (h : Reached k s) : s.Accounted := by
  obtain ⟨us, rfl⟩ := h
  exact State.run_accounted k us

theorem agrees (h : Reached k s) : s.Agrees := by
  obtain ⟨us, rfl⟩ := h
  exact State.agrees_run k us

theorem dated (h : Reached k s) : s.Dated := by
  obtain ⟨us, rfl⟩ := h
  exact State.run_dated k us

theorem settings (h : Reached k s) : s.settings = k := by
  obtain ⟨us, rfl⟩ := h
  exact State.settings_run _ us

theorem turn (h : Reached k s) (t : Session.Turn) : Reached k (s.turn t) := by
  obtain ⟨us, rfl⟩ := h
  exact ⟨us ++ [t], (State.run_append _ us [t]).symm⟩

end Reached

section
variable {k : KeypadSettings} {s s' : State} {t : Session.Turn}

def Fresh (k : KeypadSettings) (s : State) : Prop := ∃ n, s = { State.init k with now := n }

theorem Fresh.turn (h : Fresh k s) (hcall : t.IsUncalled) (ht : s.turn? t = some s') :
    Fresh k s' := by
  obtain ⟨n, hs⟩ := h
  have hlater (ms : Nat) : Fresh k { s with now := s.now + ms } := ⟨n + ms, by rw [hs]⟩
  cases t with
  | late ms => exact Option.some.inj ht ▸ hlater ms
  | move m =>
    cases m with
    | elapse ms =>
      obtain ⟨-, hs'⟩ := Option.ite_none_right_eq_some.mp ht
      exact Option.some.inj hs' ▸ hlater ms
    | call r => exact absurd rfl (hcall r)
    | received line | faulted | hungUp =>
      obtain ⟨⟨⟨d, hp⟩, -⟩, -⟩ := Option.ite_none_right_eq_some.mp ht
      exact nomatch hs ▸ hp
    | _ =>
      subst hs
      exact nomatch ht

theorem Fresh.history (h : Fresh k s) : s.history = [] := by
  obtain ⟨n, rfl⟩ := h
  rfl

end

/-- Whether time may pass: the command has nothing to do, and its timer does not go off before. -/
def MayPass (e : Dispatch) (ms : Nat) : Prop :=
  e.due = [] ∧ e.program.act? e.session = none ∧ ∀ d ∈ e.program.timer?, e.session.now + ms ≤ d

def OnTime (e : Dispatch) : Turn → Prop
  | .session t => t.passes = 0 ∨ e.MayPass t.passes
  | _ => True

def Punctual : Dispatch → List Turn → Prop
  | _, [] => True
  | e, t :: ts => e.OnTime t ∧ Punctual (e.turn t) ts

instance (e : Dispatch) (ms : Nat) : Decidable (e.MayPass ms) :=
  inferInstanceAs (Decidable (_ ∧ _ ∧ _))

instance (e : Dispatch) : (t : Turn) → Decidable (e.OnTime t)
  | .session t => inferInstanceAs (Decidable (t.passes = 0 ∨ e.MayPass t.passes))
  | .act | .make => inferInstanceAs (Decidable True)

instance decidablePunctual : (e : Dispatch) → (ts : List Turn) → Decidable (e.Punctual ts)
  | _, [] => inferInstanceAs (Decidable True)
  | e, t :: ts =>
    have := decidablePunctual (e.turn t) ts
    inferInstanceAs (Decidable (e.OnTime t ∧ Punctual (e.turn t) ts))

theorem punctual_append {e : Dispatch} {ts us : List Turn} :
    e.Punctual (ts ++ us) ↔ e.Punctual ts ∧ (e.run ts).Punctual us := by
  induction ts generalizing e with
  | nil => exact (iff_of_eq (true_and _)).symm
  | cons t ts ih => exact (and_congr_right fun _ => ih).trans and_assoc.symm

def onward : List Turn :=
  [.act, .make, .session (.move .act), .session (.move .handed), .session (.move .closed)]

/-- Whether a turn leads on when these moves are due: the command decides on a step if there are
none, and makes a move otherwise. -/
def Turn.Suits (t : Turn) (ms : List Move) : Prop :=
  t ∈ onward ∧ (t = .act → ms = []) ∧ (t = .make → ms ≠ [])

/-- Whatever can go on goes on: the command and the session take a step, a line in hand goes over,
and a connection that is being closed is closed. All else may happen as well, in any order; so a
round is as long as it takes for a line to go over or to fail, and for a connection to close or to
run out of time. -/
def IsRound (ts : List Turn) : Prop := onward ⊆ ts

variable {b : Prop} {P : Nat → Turn → Dispatch → Prop} {R : Dispatch → Prop} {n : Nat} {t : Turn}
  {e : Dispatch} {ts : List Turn}

/-- A count of rounds, and the turn that is waited for. No turn takes the count up, and the turn
that is waited for takes it down; once the command is ready that turn is possible. If `b` then the
command is on time. -/
structure Countdown (b : Prop) (P : Nat → Turn → Dispatch → Prop) (R : Dispatch → Prop) :
    Prop where
  turn : ∀ {n t e u e'}, P n t e → (b → e.OnTime u) → e.turn? u = some e' →
    P n t e' ∧ u ≠ t ∨ ∃ m < n, ∃ t', P m t' e'
  ready : ∀ {e u e'}, R e → e.turn? u = some e' → R e'
  onward : ∀ {n t e}, P n t e → R e → n ≠ 0 → t ∈ onward ∧ (e.turn? t).isSome

namespace Countdown

theorem run (c : Countdown b P R) (h : P n t e) (hb : b → e.Punctual ts) :
    ∃ m ≤ n, ∃ t', P m t' (e.run ts) := by
  induction ts generalizing n t e with
  | nil => exact ⟨n, Nat.le_refl n, t, h⟩
  | cons u us ih =>
    cases hu : e.turn? u with
    | none =>
      rw [run_cons, turn_eq_self hu]
      exact ih h fun hb' => turn_eq_self hu ▸ (hb hb').2
    | some e' =>
      have hrest (hb' : b) : e'.Punctual us := turn_eq hu ▸ (hb hb').2
      rw [run_cons, turn_eq hu]
      rcases c.turn h (fun hb' => (hb hb').1) hu with ⟨hsame, -⟩ | ⟨m, hm, t', hless⟩
      · exact ih hsame hrest
      · obtain ⟨m', hm', hrun⟩ := ih hless hrest
        exact ⟨m', hm'.trans hm.le, hrun⟩

/-- The turn that is waited for comes at some time, and till then it is waited for. -/
theorem run_lt (c : Countdown b P R) (h : P n t e) (hready : R e) (hn : n ≠ 0) (hm : t ∈ ts)
    (hb : b → e.Punctual ts) : ∃ m < n, ∃ t', P m t' (e.run ts) := by
  induction ts generalizing e with
  | nil => exact nomatch hm
  | cons u us ih =>
    cases hu : e.turn? u with
    | none =>
      -- a turn that is not possible is not the one that is waited for
      have hne : t ≠ u := by
        rintro rfl
        simpa [hu] using (c.onward h hready hn).2
      rw [run_cons, turn_eq_self hu]
      exact ih h hready ((List.mem_cons.mp hm).resolve_left hne)
        fun hb' => turn_eq_self hu ▸ (hb hb').2
    | some e' =>
      have hrest (hb' : b) : e'.Punctual us := turn_eq hu ▸ (hb hb').2
      rw [run_cons, turn_eq hu]
      rcases c.turn h (fun hb' => (hb hb').1) hu with ⟨hsame, hne⟩ | ⟨m, hm', t', hless⟩
      · exact ih hsame (c.ready hready hu) ((List.mem_cons.mp hm).resolve_left (Ne.symm hne)) hrest
      · obtain ⟨m', hle, hrun⟩ := c.run hless hrest
        exact ⟨m', Nat.lt_of_le_of_lt hle hm', hrun⟩

/-- Every round takes the count down. -/
theorem rounds (c : Countdown b P R) (h : P n t e) (hready : R e) {rounds : List (List Turn)}
    (hr : ∀ r ∈ rounds, IsRound r) (hb : b → e.Punctual rounds.flatten) :
    ∃ m ≤ n - rounds.length, ∃ t', P m t' (e.run rounds.flatten) := by
  induction rounds generalizing n t e with
  | nil => exact ⟨n, Nat.le_refl n, t, h⟩
  | cons r rounds ih =>
    rw [List.flatten_cons] at hb ⊢
    have hfirst (hb' : b) := (punctual_append.mp (hb hb')).1
    have hrest (hb' : b) := (punctual_append.mp (hb hb')).2
    have hrounds : ∀ r ∈ rounds, IsRound r := fun r hmem => hr r (List.mem_cons_of_mem _ hmem)
    have hready' : R (e.run r) := run_induction (fun _ _ _ => c.ready) hready r
    rw [run_append]
    by_cases hn : n = 0
    · obtain ⟨m, hm, t', h'⟩ := c.run h hfirst
      obtain ⟨m', hm', hrun⟩ := ih h' hready' hrounds hrest
      exact ⟨m', by omega, hrun⟩
    · have hmem : t ∈ r := hr r List.mem_cons_self (c.onward h hready hn).1
      obtain ⟨m, hm, t', h'⟩ := c.run_lt h hready hn hmem hfirst
      obtain ⟨m', hm', hrun⟩ := ih h' hready' hrounds hrest
      exact ⟨m', by rw [List.length_cons]; omega, hrun⟩

end Countdown
end Dispatch
end AlarmKeypad.Cli
