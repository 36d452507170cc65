import AlarmKeypad.Proofs.Cli.Watching
import AlarmKeypad.Proofs.Session.Demand
/-!
# The interactive command at work

The command, the session of its keypad and a keyboard, in turns of any order: keys come at any time,
the session, the device and the clock move as they will, and the command takes any step that is
ready.
-/

namespace AlarmKeypad.Cli

open Session Gesture GestureConfirmer

def alarmLine (a : AlarmAction) : String := "!SEND:" ++ a.command.token

theorem alarmLine_ne_syncLine (k : KeypadSettings) (a : AlarmAction) :
    alarmLine a ≠ k.syncLine := by
  intro h
  have hsecond := congrArg (·.toList[2]?) h
  simp [alarmLine, syncLine_eq, String.toList_append] at hsecond

theorem alarmLine_ne_pingLine (k : KeypadSettings) (a : AlarmAction) :
    alarmLine a ≠ k.pingLine := by
  intro h
  have hsecond := congrArg (·.toList[1]?) h
  simp [alarmLine, pingLine_eq, String.toList_append] at hsecond

/-- Only the command of an alarm asks for its line. -/
theorem line?_eq_alarmLine {k : KeypadSettings} {a : AlarmAction} {r : Request} :
    r.line? k = some (alarmLine a) ↔ r = .command a.command.token := by
  constructor
  · intro h
    cases r with
    | command token =>
      unfold Request.line? at h
      dsimp only at h
      split at h
      · exact nomatch h
      · have htext := congrArg String.toList ((render_send token).symm.trans (Option.some.inj h))
        rw [alarmLine, String.toList_append, String.toList_append,
          List.append_cancel_left_eq] at htext
        rw [String.toList_inj.mp htext]
    | sync => exact absurd (Option.some.inj h).symm (alarmLine_ne_syncLine k a)
    | _ => exact nomatch h
  · rintro rfl
    have hne : a.command.token ≠ "" := by cases a <;> decide
    exact (if_neg hne).trans (congrArg some (render_send _))

/-- No turn but a call for the alarm asks for its line. -/
theorem asksFor_alarmLine_turn {k : KeypadSettings} {a : AlarmAction} (s : State)
    {t : Session.Turn} (ht : t ≠ .move (.call (.command a.command.token))) :
    asksFor k (alarmLine a) (s.turn t).history = asksFor k (alarmLine a) s.history := by
  by_cases hcall : ∃ r, t = .move (.call r)
  · obtain ⟨r, rfl⟩ := hcall
    have hline : r.line? k ≠ some (alarmLine a) := fun hline =>
      ht (congrArg (Turn.move <| .call ·) (line?_eq_alarmLine.mp hline))
    exact (State.asksFor_call r).trans (by rw [if_neg hline, List.append_nil])
  · exact State.asksFor_turn fun r hr => hcall ⟨r, hr⟩

theorem asksFor_alarmLine_run {k : KeypadSettings} {a : AlarmAction} (s : State)
    {ts : List Session.Turn} (hts : .move (.call (.command a.command.token)) ∉ ts) :
    asksFor k (alarmLine a) (s.run ts).history = asksFor k (alarmLine a) s.history := by
  induction ts generalizing s with
  | nil => rfl
  | cons t ts ih =>
    rw [List.mem_cons, not_or] at hts
    exact (ih _ hts.2).trans (asksFor_alarmLine_turn s (Ne.symm hts.1))

structure Desk where
  program : Program
  session : State
  /-- The keys that have been handled and when, the first in front. -/
  handled : List (Nat × Key)

namespace Desk

inductive Turn where
  /-- The session or the device moves, a call goes on, or time passes. -/
  | session (t : Session.Turn)
  | input (i : KeyInput)
  | program (c : Choice)
deriving DecidableEq

/-- Whether the keypad is asked for a command, which nobody else at the desk does. -/
def isCommand : Session.Turn → Bool
  | .move (.call (.command _)) => true
  | _ => false

def new (k : KeypadSettings) (endpoint : String) (terminal : Bool) : Desk :=
  ⟨.new (.watch true) endpoint terminal, .init k, []⟩

def after (d : Desk) (r : Program × List Move) : Desk where
  program := r.1
  session := d.session.run (r.2.map .move)
  handled := d.handled ++ (d.program.keysTo r.1).map fun k => (d.session.now, k)

def turn? (d : Desk) : Turn → Option Desk
  | .session t => if isCommand t then none else some { d with session := d.session.turn t }
  | .input i => some { d with program := { d.program with inputs := d.program.inputs ++ [i] } }
  | .program c => (d.program.step? d.session c).map d.after

def turn (d : Desk) (t : Turn) : Desk := (d.turn? t).getD d

def run (d : Desk) (ts : List Turn) : Desk := ts.foldl turn d

theorem turn_eq {d d' : Desk} {t : Turn} (h : d.turn? t = some d') : d.turn t = d' := by
  simp [turn, h]

theorem turn_eq_self {d : Desk} {t : Turn} (h : d.turn? t = none) : d.turn t = d := by
  simp [turn, h]

/-- What every possible turn keeps holds after a run. -/
theorem run_induction {P : Desk → Prop} {d : Desk}
    (step : ∀ d t d', P d → d.turn? t = some d' → P d') (h : P d) (ts : List Turn) :
    P (d.run ts) := by
  induction ts generalizing d with
  | nil => exact h
  | cons t ts ih =>
    apply ih
    cases ht : d.turn? t with
    | none => exact (turn_eq_self ht).symm ▸ h
    | some d' => exact (turn_eq ht).symm ▸ step d t d' h ht

/-- The session is on a run of its own. -/
theorem session_turn {d d' : Desk} {t : Turn} (h : d.turn? t = some d') :
    ∃ ts, d'.session = d.session.run ts := by
  cases t with
  | session t =>
    obtain ⟨-, hs⟩ := Option.ite_none_left_eq_some.mp h
    exact ⟨[t], Option.some.inj hs ▸ rfl⟩
  | input i => exact ⟨[], Option.some.inj h ▸ rfl⟩
  | program c =>
    obtain ⟨⟨p, ms⟩, -, rfl⟩ := Option.map_eq_some_iff.mp h
    exact ⟨ms.map .move, rfl⟩

theorem session_run (d : Desk) (ts : List Turn) : ∃ us, (d.run ts).session = d.session.run us := by
  refine run_induction (P := fun e => ∃ us, e.session = d.session.run us) ?_ ⟨[], rfl⟩ ts
  rintro e t e' ⟨us, hus⟩ ht
  obtain ⟨vs, hvs⟩ := session_turn ht
  exact ⟨us ++ vs, by rw [hvs, hus, State.run_append]⟩

variable {k : KeypadSettings} {a : AlarmAction} {c : Confirmation} {d d' : Desk} {t : Turn}
  {p : Program} {ms : List Move}

/-- The times at which the key of an action was handled, the first in front. -/
def presses (a : AlarmAction) (d : Desk) : List Nat :=
  (d.handled.filter fun x => KeyAction.ofKey? x.2 = some (.tap a)).map Prod.fst

theorem presses_after_nil (h : d.program.keysTo p = []) :
    (d.after (p, ms)).presses a = d.presses a := by
  rw [presses, after, h, List.map_nil, List.append_nil]
  rfl

theorem presses_after_singleton {key : Key} (h : d.program.keysTo p = [key]) :
    (d.after (p, ms)).presses a = d.presses a ++
      if KeyAction.ofKey? key = some (.tap a) then [d.session.now] else [] := by
  rw [presses, after, h, List.map_singleton, List.filter_append, List.map_append]
  by_cases hkey : KeyAction.ofKey? key = some (.tap a) <;> simp [presses, hkey]

structure Goes (d d' : Desk) : Prop where
  task : d'.program.task = d.program.task
  window : d'.program.gestures.window = d.program.gestures.window
  now_le : d.session.now ≤ d'.session.now
  handled : ∃ ks : List Key, d'.handled = d.handled ++ ks.map fun k => (d.session.now, k)

/-- Keys are handled one after the other. -/
theorem Goes.ordered (hg : Goes d d') (hpast : ∀ x ∈ d.handled, x.1 ≤ d.session.now)
    (hordered : d.handled.Pairwise fun x y => x.1 ≤ y.1) :
    (∀ x ∈ d'.handled, x.1 ≤ d'.session.now) ∧ d'.handled.Pairwise fun x y => x.1 ≤ y.1 := by
  obtain ⟨ks, hks⟩ := hg.handled
  have hnew {x : Nat × Key} (hx : x ∈ ks.map fun key => (d.session.now, key)) :
      x.1 = d.session.now := by
    obtain ⟨key, -, rfl⟩ := List.mem_map.mp hx
    rfl
  rw [hks]
  constructor
  · intro x hx
    rcases List.mem_append.mp hx with hx | hx
    · exact Nat.le_trans (hpast x hx) hg.now_le
    · exact Nat.le_trans (Nat.le_of_eq (hnew hx)) hg.now_le
  · refine List.pairwise_append.mpr ⟨hordered, ?_, fun x hx y hy => hnew hy ▸ hpast x hx⟩
    exact List.pairwise_map.mpr (List.pairwise_of_forall fun _ _ => Nat.le_refl _)

/-- A turn that is no tap on the action; it may cancel the taps. -/
structure Keeps (k : KeypadSettings) (a : AlarmAction) (d d' : Desk) : Prop where
  presses : d'.presses a = d.presses a
  answers : d'.program.answers a = d.program.answers a
  asks : asksFor k (alarmLine a) d'.session.history = asksFor k (alarmLine a) d.session.history
  counter : d'.program.gestures.counter a = d.program.gestures.counter a ∨
    ∃ due, (d.program.gestures.counter a).deadline = some due ∧ due ≤ d.session.now ∧
      d'.program.gestures.counter a = .zero

/-- A turn that handles a tap on the action, and its answer. -/
structure Answers (k : KeypadSettings) (a : AlarmAction) (c : Confirmation) (d d' : Desk) :
    Prop where
  answer : c = ((d.program.gestures.counter a).tap d.session.now d.program.gestures.window).1
  counter : d'.program.gestures.counter a =
    ((d.program.gestures.counter a).tap d.session.now d.program.gestures.window).2
  presses : d'.presses a = d.presses a ++ [d.session.now]
  answers : d'.program.answers a = d.program.answers a ++ [c]
  asks : asksFor k (alarmLine a) d'.session.history =
    asksFor k (alarmLine a) d.session.history ++
      if c = .confirmed then [d.session.callCount] else []
  confirmed : c = .confirmed → d'.session = d.session.call (.command a.command.token) ∧
    d'.program.phase = .calling d.session.callCount (.key a.command)

theorem goes_turn (ht : d.program.task = .watch true) (h : d.turn? t = some d') : Goes d d' := by
  cases t with
  | session t =>
    obtain ⟨-, hs⟩ := Option.ite_none_left_eq_some.mp h
    obtain rfl := Option.some.inj hs
    exact ⟨rfl, rfl, State.now_le_turn _ _, [], (List.append_nil _).symm⟩
  | input i =>
    obtain rfl := Option.some.inj h
    exact ⟨rfl, rfl, Nat.le_refl _, [], (List.append_nil _).symm⟩
  | program c =>
    obtain ⟨⟨p, ms⟩, hstep, rfl⟩ := Option.map_eq_some_iff.mp h
    have hnow : d.session.now ≤ (d.after (p, ms)).session.now := State.now_le_run _ _
    cases Program.effect_step ht hstep with
    | aside h => exact ⟨h.task, by rw [← h.gestures]; rfl, hnow, _, rfl⟩
    | cancels => exact ⟨rfl, window_setCounter .., hnow, _, rfl⟩
    | drops _ _ h => exact ⟨h.task, by rw [← h.gestures]; rfl, hnow, _, rfl⟩
    | taps _ _ h =>
      exact ⟨h.task, (congrArg _ h.gestures).trans (window_setCounter ..), hnow, _, rfl⟩

theorem asksFor_after (hms : .call (.command a.command.token) ∉ ms) :
    asksFor k (alarmLine a) (d.after (p, ms)).session.history =
      asksFor k (alarmLine a) d.session.history := by
  refine asksFor_alarmLine_run _ fun h => ?_
  obtain ⟨m, hm, heq⟩ := List.mem_map.mp h
  exact hms (Session.Turn.move.inj heq ▸ hm)

section
variable {b : AlarmAction} {key : Key} {r : List KeyInput}

theorem answers_of_taps (k : KeypadSettings) (hkeys : d.program.keysTo p = [key])
    (hkey : KeyAction.ofKey? key = some (.tap a))
    (h : Program.Taps a c { d.program with inputs := r } d.session p ms) :
    Answers k a c d (d.after (p, ms)) where
  answer := h.answer
  counter := (congrArg (counter · a) h.gestures).trans ((counter_setCounter ..).trans (if_pos rfl))
  presses := by rw [presses_after_singleton hkeys, if_pos hkey]
  answers := (h.answers a).trans (by rw [if_pos rfl]; rfl)
  asks := by
    have hline : Request.line? k (.command a.command.token) = some (alarmLine a) :=
      line?_eq_alarmLine.mpr rfl
    rw [h.moves]
    by_cases hc : c = .confirmed
    · rw [if_pos hc, if_pos hc]
      exact (State.asksFor_call _).trans (by rw [if_pos hline])
    · rw [if_neg hc, if_neg hc]
      exact (List.append_nil _).symm
  confirmed hc := by
    rw [h.moves, if_pos hc]
    exact ⟨rfl, h.phase hc⟩

/-- A tap on another action. -/
theorem keeps_of_taps (k : KeypadSettings) (hb : b ≠ a) (hkeys : d.program.keysTo p = [key])
    (hkey : KeyAction.ofKey? key = some (.tap b))
    (h : Program.Taps b c { d.program with inputs := r } d.session p ms) :
    Keeps k a d (d.after (p, ms)) where
  presses := by
    rw [presses_after_singleton hkeys, hkey, if_neg (by simpa using hb), List.append_nil]
  answers := (h.answers a).trans (by rw [if_neg hb, List.append_nil]; rfl)
  asks := by
    refine asksFor_after ?_
    rw [h.moves]
    split
    · intro hmem
      have htoken := Request.command.inj (Move.call.inj (List.mem_singleton.mp hmem))
      exact hb (Program.token_injective htoken).symm
    · exact List.not_mem_nil
  counter := .inl ((congrArg (counter · a) h.gestures).trans
    ((counter_setCounter ..).trans (if_neg hb)))

end

/-- A turn is a tap on the action or leaves all that has to do with it alone. -/
theorem turn_cases (k : KeypadSettings) (a : AlarmAction) (ht : d.program.task = .watch true)
    (h : d.turn? t = some d') : Keeps k a d d' ∨ ∃ c, Answers k a c d d' := by
  cases t with
  | session t =>
    obtain ⟨hcommand, hs⟩ := Option.ite_none_left_eq_some.mp h
    obtain rfl := Option.some.inj hs
    refine .inl ⟨rfl, rfl, asksFor_alarmLine_turn _ ?_, .inl rfl⟩
    rintro rfl
    exact hcommand rfl
  | input i =>
    obtain rfl := Option.some.inj h
    exact .inl ⟨rfl, rfl, rfl, .inl rfl⟩
  | program c =>
    obtain ⟨⟨p, ms⟩, hstep, rfl⟩ := Option.map_eq_some_iff.mp h
    cases Program.effect_step ht hstep with
    | aside h =>
      exact .inl ⟨presses_after_nil (Program.keysTo_eq_nil h.inputs), h.answers a,
        asksFor_after (h.quiet a), .inl (congrArg (counter · a) h.gestures)⟩
    | @cancels b due hdue hpassed =>
      refine .inl ⟨presses_after_nil (Program.keysTo_eq_nil rfl),
        Program.answers_print_of_none (by simp [Print.answer?]), rfl, ?_⟩
      by_cases hb : b = a
      · subst hb
        exact .inr ⟨due, hdue, hpassed, (counter_setCounter ..).trans (if_pos rfl)⟩
      · exact .inl ((counter_setCounter ..).trans (if_neg hb))
    | @drops i r _ _ hi hkey h =>
      have hkeys : d.program.keysTo p = (inputKey? i).toList :=
        Program.keysTo_of_cons (by rw [hi, h.inputs])
      refine .inl ⟨?_, h.answers a, asksFor_after (h.quiet a),
        .inl (congrArg (counter · a) h.gestures)⟩
      cases hik : inputKey? i with
      | none => exact presses_after_nil (hkeys.trans (by rw [hik]; rfl))
      | some key =>
        rw [presses_after_singleton (hkeys.trans (by rw [hik]; rfl)), if_neg (hkey key hik a),
          List.append_nil]
    | @taps key r b c _ _ hi hkey h =>
      have hkeys : d.program.keysTo p = [key] :=
        Program.keysTo_of_cons (i := .pressed key) (by rw [hi, h.inputs])
      by_cases hb : b = a
      · exact .inr ⟨c, answers_of_taps k hkeys (hb ▸ hkey) (hb ▸ h)⟩
      · exact .inl (keeps_of_taps k hb hkeys hkey h)

end Desk
end AlarmKeypad.Cli
