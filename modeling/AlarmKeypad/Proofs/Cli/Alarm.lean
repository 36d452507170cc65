import AlarmKeypad.Proofs.Cli.Desk

namespace AlarmKeypad.Cli.Desk

open Session Gesture GestureConfirmer

variable {k : KeypadSettings} {a : AlarmAction} {d d' : Desk} {t : Turn}

/-- The taps on an action are answered by the rule; each confirmation has asked for one alarm. -/
structure Sound (k : KeypadSettings) (a : AlarmAction) (d : Desk) : Prop where
  task : d.program.task = .watch true
  window : d.program.gestures.window = defaultWindow
  past : ∀ x ∈ d.handled, x.1 ≤ d.session.now
  ordered : d.handled.Pairwise fun x y => x.1 ≤ y.1
  agrees : Agrees defaultWindow (d.program.gestures.counter a) d.session.now
    (streak defaultWindow (d.presses a).reverse % 3) ((d.presses a).reverse.headD 0)
  answers : d.program.answers a = answersTo defaultWindow (d.presses a)
  asks : (asksFor k (alarmLine a) d.session.history).length =
    (d.program.answers a).count .confirmed

namespace Sound

theorem new (k : KeypadSettings) (endpoint : String) (terminal : Bool) (a : AlarmAction) :
    (Desk.new k endpoint terminal).Sound k a where
  task := rfl
  window := rfl
  past := nofun
  ordered := .nil
  agrees := ⟨Nat.zero_le _, fun _ => by cases a <;> rfl, nofun⟩
  answers := rfl
  asks := rfl

/-- The rule for a tap, said of the presses so far. -/
theorem tap (h : d.Sound k a) :
    let r := (d.program.gestures.counter a).tap d.session.now d.program.gestures.window
    let past := d.session.now :: (d.presses a).reverse
    r.1 = (verdict (streak defaultWindow past)).1 ∧
      Agrees defaultWindow r.2 d.session.now (streak defaultWindow past % 3) d.session.now := by
  obtain ⟨hanswer, hagrees⟩ := h.agrees.tap
  rw [answer_countAfter] at hanswer hagrees
  rw [verdict_snd] at hagrees
  rw [h.window]
  exact ⟨congrArg Prod.fst hanswer, hagrees⟩

theorem turn (h : d.Sound k a) (ht : d.turn? t = some d') : d'.Sound k a := by
  have hgoes := goes_turn h.task ht
  have htask := hgoes.task.trans h.task
  have hwindow := hgoes.window.trans h.window
  obtain ⟨hpast, hordered⟩ := hgoes.ordered h.past h.ordered
  rcases turn_cases k a h.task ht with hkeeps | ⟨c, hanswers⟩
  · refine ⟨htask, hwindow, hpast, hordered, .later ?_ hgoes.now_le, ?_, ?_⟩
    · rw [hkeeps.presses]
      rcases hkeeps.counter with hc | ⟨due, hdue, hpassed, hc⟩
      · exact hc ▸ h.agrees
      · exact hc ▸ h.agrees.cancel hdue hpassed
    · rw [hkeeps.answers, hkeeps.presses, h.answers]
    · rw [hkeeps.asks, hkeeps.answers, h.asks]
  · obtain ⟨hc, hagrees⟩ := h.tap
    refine ⟨htask, hwindow, hpast, hordered, .later ?_ hgoes.now_le, ?_, ?_⟩
    · rw [hanswers.presses, List.reverse_concat, hanswers.counter]
      exact hagrees
    · rw [hanswers.presses, hanswers.answers, answersTo_concat, h.answers, hanswers.answer, hc]
    · rw [hanswers.asks, hanswers.answers, List.length_append, List.count_append, h.asks]
      congr 1
      by_cases hconfirmed : c = .confirmed <;> simp [hconfirmed]

theorem run (k : KeypadSettings) (endpoint : String) (terminal : Bool) (a : AlarmAction)
    (ts : List Turn) : ((Desk.new k endpoint terminal).run ts).Sound k a :=
  run_induction (fun _ _ _ h ht => h.turn ht) (new k endpoint terminal a) ts

theorem presses_ordered (h : d.Sound k a) : (d.presses a).Pairwise (· ≤ ·) :=
  List.pairwise_map.mpr (h.ordered.filter _)

theorem backed (h : d.Sound k a) :
    Backed defaultWindow (d.presses a) (d.program.answers a) :=
  h.answers ▸ backed_answersTo defaultWindow (d.presses a)

/-- The line of an alarm is handed over no more often than its action is confirmed. -/
theorem timesHanded_le (h : d.Sound k a) {us : List Session.Turn}
    (hs : d.session = (State.init k).run us) :
    timesHanded (alarmLine a) d.session.history ≤ (d.program.answers a).count .confirmed := by
  obtain ⟨q, ht⟩ := State.run_tracks k us
  rw [← h.asks, hs]
  exact Session.timesHanded_le ht (State.run_accounts k us) (alarmLine_ne_syncLine k a)
    (alarmLine_ne_pingLine k a)

end Sound

/-- A call is reported as not sent by whatever step the command takes next, and its line is never
handed over. -/
structure Unsent (id : Nat) (d : Desk) : Prop where
  unhanded : ∀ us, ∀ e ∈ (d.run us).session.history, ∀ o, e.event.handover? = some o →
    o.source ≠ .call id
  reported : ∀ us, (∀ c, .program c ∉ us) → ∀ c, let e := d.run us
    e.program.step? e.session c =
      if c = .next then some ((e.program.print (.notSent .notConnected)).goTo .watching, [])
      else none

/-- The command stays where it is until it takes a step. -/
theorem phase_run {us : List Turn} (hus : ∀ c, .program c ∉ us) :
    (d.run us).program.phase = d.program.phase := by
  induction us generalizing d with
  | nil => rfl
  | cons u us ih =>
    have hphase : (d.turn u).program.phase = d.program.phase := by
      cases u with
      | session t =>
        unfold Desk.turn turn?
        dsimp only
        split <;> rfl
      | input i => rfl
      | program c => exact absurd List.mem_cons_self (hus c)
    exact (ih fun c hc => hus c (List.mem_cons_of_mem u hc)).trans hphase

/-- The next step of a command whose call has failed. -/
theorem step_calling {p : Program} {s : State} {id : Nat} {f : KeypadFault}
    (hp : p.phase = .calling id (.key a.command)) (hc : s.calls.lookup id = none)
    (hr : replyOf id s.history = some (.failed f)) (c : Choice) :
    p.step? s c = if c = .next then some ((p.print (.notSent f)).goTo .watching, []) else none := by
  have hw : p.isWatching = false := by simp [Program.isWatching, hp]
  cases c with
  | next => simp [Program.step?, Program.act?, hp, hc, hr, Program.afterCall]
  | _ => simp [Program.step?, hw]

theorem call_of_unconnected {s : State} (hpub : s.published ≠ .connected) :
    s.call (.command a.command.token) = (s.begun (.command a.command.token)).returned s.callCount
      (.failed .notConnected) := by
  have hne : a.command.token ≠ "" := by cases a <;> decide
  rw [State.call_command, if_neg hne]
  exact if_neg hpub

/-- An alarm that is confirmed while the keypad is not connected. -/
theorem unsent_of_unconnected {ts : List Session.Turn} (hs : d.session = (State.init k).run ts)
    (h : Answers k a .confirmed d d') (hpub : d.session.published ≠ .connected) :
    d'.Unsent d.session.callCount := by
  obtain ⟨hcall, hphase⟩ := h.confirmed rfl
  have haccounted : d.session.Accounted := hs ▸ State.run_accounted k ts
  have htracked : d.session.Tracked := hs ▸ State.run_tracked k ts
  have hid := d.session.callCount_lt_call (.command a.command.token)
  obtain ⟨hsettled, -⟩ := State.settled_begun haccounted htracked (.command a.command.token)
    (.failed .notConnected)
  rw [← call_of_unconnected hpub, ← hcall] at hsettled
  rw [← hcall] at hid
  have hown : (d'.session.own d.session.callCount).2 =
      [⟨d.session.now, .returned d.session.callCount (.failed .notConnected)⟩,
        ⟨d.session.now, .called d.session.callCount (.command a.command.token)⟩] := by
    rw [hcall, call_of_unconnected hpub, State.own_returned_self, State.own_begun_self haccounted]
    rfl
  constructor
  · intro us
    obtain ⟨vs, hvs⟩ := d'.session_run us
    have hrun := State.run_tracked k (ts ++ .move (.call (.command a.command.token)) :: vs)
    rw [State.run_append, ← hs] at hrun
    have hrun : (d'.run us).session.Tracked := by rwa [hvs, hcall]
    refine fun e he o ho => State.unsent_of_unqueued hrun ?_ he ho
    rw [hvs]
    exact (hsettled.run hid vs).1.2
  · intro us hus c
    obtain ⟨vs, hvs⟩ := d'.session_run us
    refine step_calling ((phase_run hus).trans hphase) ?_ ?_ c
    · rw [hvs]
      exact (hsettled.run hid vs).1.1
    · rw [← State.replyOf_own, hvs, hsettled.own_run hid, hown]
      simp [replyOf]

/-- A turn that handles a press of the key of an action and confirms it. -/
def Confirms (a : AlarmAction) (d d' : Desk) : Prop :=
  d'.program.answers a = d.program.answers a ++ [.confirmed] ∧
    d'.presses a = d.presses a ++ [d.session.now]

theorem not_confirms_of_answers_eq (h : d'.program.answers a = d.program.answers a) :
    ¬Confirms a d d' := fun hconfirms =>
  nomatch List.self_eq_append_right.mp (h.symm.trans hconfirms.1)

/-- A turn that asks for the line of an alarm is one that confirms it, and the other way round. -/
theorem Sound.asks_or_keeps (h : d.Sound k a) (t : Turn) :
    Answers k a .confirmed d (d.turn t) ∨ ¬Confirms a d (d.turn t) ∧
      asksFor k (alarmLine a) (d.turn t).session.history =
        asksFor k (alarmLine a) d.session.history := by
  cases ht : d.turn? t with
  | none =>
    rw [turn_eq_self ht]
    exact .inr ⟨not_confirms_of_answers_eq rfl, rfl⟩
  | some d' =>
    rw [turn_eq ht]
    rcases turn_cases k a h.task ht with hkeeps | ⟨c, hanswers⟩
    · exact .inr ⟨not_confirms_of_answers_eq hkeeps.answers, hkeeps.asks⟩
    · by_cases hc : c = .confirmed
      · exact .inl (hc ▸ hanswers)
      · refine .inr ⟨fun hconfirms => hc ?_, ?_⟩
        · have hlast := hanswers.answers.symm.trans hconfirms.1
          exact List.singleton_inj.mp (List.append_cancel_left hlast)
        · rw [hanswers.asks, if_neg hc, List.append_nil]

/-- No alarm without three taps. On every run of the interactive command the line of an alarm is
handed over at most as often as its action is confirmed, and each confirmation uses up three presses
of the key of its action, one after the other, with both gaps below the window. A turn that asks for
such a line handles the press that confirms its action; one that confirms it while the keypad is not
connected is reported as not sent, and the line never goes out. No other key asks for the line of an
alarm, whatever the mode. -/
theorem no_alarm_without_taps (k : KeypadSettings) (endpoint : String) (terminal : Bool) :
    (∀ ts a, let d := (Desk.new k endpoint terminal).run ts
      timesHanded (alarmLine a) d.session.history ≤ (d.program.answers a).count .confirmed ∧
        Backed defaultWindow (d.presses a) (d.program.answers a) ∧
        (d.presses a).Pairwise (· ≤ ·)) ∧
      (∀ ts t a, let d := (Desk.new k endpoint terminal).run ts
        let asked := asksFor k (alarmLine a) d.session.history
        let asked' := asksFor k (alarmLine a) (d.turn t).session.history
        (asked' ≠ asked → Confirms a d (d.turn t)) ∧
          (Confirms a d (d.turn t) → asked' = asked ++ [d.session.callCount] ∧
            (d.session.published ≠ .connected → (d.turn t).Unsent d.session.callCount))) ∧
      ∀ (p : Program) s x p' ms, (∀ a, x ≠ .tap a) → p.act s x = some (p', ms) →
        ∀ r, .call r ∈ ms → ∀ a, r.line? k ≠ some (alarmLine a) := by
  refine ⟨fun ts a => ?_, fun ts t a => ?_, fun p s x p' ms hx hact r hr a hline => ?_⟩
  · obtain ⟨us, hus⟩ := (Desk.new k endpoint terminal).session_run ts
    have h := Sound.run k endpoint terminal a ts
    exact ⟨h.timesHanded_le hus, h.backed, h.presses_ordered⟩
  · obtain ⟨us, hus⟩ := (Desk.new k endpoint terminal).session_run ts
    rcases (Sound.run k endpoint terminal a ts).asks_or_keeps t with h | ⟨hnot, hkeeps⟩
    · exact ⟨fun _ => ⟨h.answers, h.presses⟩, fun _ => ⟨h.asks, unsent_of_unconnected hus h⟩⟩
    · exact ⟨fun hne => absurd hkeeps hne, fun hconfirms => absurd hconfirms hnot⟩
  · obtain rfl := line?_eq_alarmLine.mp hline
    exact (Program.Aside.key hx hact).quiet a hr

/-- The command calls for a connection and watches. -/
def begins : List Turn := List.replicate 3 (.program .next)

/-- The key of the panic alarm is pressed three times; two of the presses are handled. -/
def threePresses : List Turn :=
  List.replicate 3 (.input (.pressed ⟨.char 'p', false⟩)) ++ List.replicate 2 (.program .key)

/-- The third press is handled, and the line of its call goes over the connection. -/
def sends : List Turn :=
  [.program .key, .program .next, .session (.move .act), .session (.move .handed)]

set_option maxRecDepth 10000 in
/-- Three presses on a keypad that is connected, and three on one that is not. -/
theorem panic_thrice :
    let sent := (Desk.new .default "panel" true).run
      (begins ++ Session.Turn.connects.map .session ++ threePresses ++ sends)
    let d := (Desk.new .default "panel" true).run (begins ++ threePresses)
    (timesHanded "!SEND:<PANIC_ALARM>" sent.session.history = 1 ∧
      1 ≤ (sent.program.answers .panic).count .confirmed) ∧
      Confirms .panic d (d.turn (.program .key)) ∧ (d.turn (.program .key)).Unsent 1 := by
  intro sent d
  obtain ⟨hcount, hturns, -⟩ := no_alarm_without_taps .default "panel" true
  have hhanded : timesHanded "!SEND:<PANIC_ALARM>" sent.session.history = 1 := by decide +kernel
  have hconfirms : Confirms .panic d (d.turn (.program .key)) :=
    ⟨by decide +kernel, by decide +kernel⟩
  refine ⟨⟨hhanded, hhanded ▸ (hcount _ .panic).1⟩, hconfirms, ?_⟩
  exact ((hturns _ _ .panic).2 hconfirms).2 (by decide +kernel)

end AlarmKeypad.Cli.Desk
