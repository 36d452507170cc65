import AlarmKeypad.Proofs.Cli.Dispatch

namespace AlarmKeypad.Cli

open Session

namespace Dispatch

def new (k : KeypadSettings) (endpoint : String) (terminal : Bool) (command : String) (raw : Bool)
    (timeout : Nat) : Dispatch :=
  ⟨.new (.send command raw timeout) endpoint terminal, .init k, []⟩

section
variable {k : KeypadSettings} {s s' : State} {t : Session.Turn} {c id : Nat} {token : String}

def ticket (id : Nat) (token : String) : Ticket := ⟨id, (ControlLine.send token).render⟩

/-- The command was asked for while connection `c` was published. -/
def AskedOn (c id : Nat) (token : String) (h : List Stamped) : Prop :=
  ∃ t past, ⟨t, .called id (.command token)⟩ :: past <:+ h ∧ publishedIn past = .connected ∧
    (collect Event.opened? past).length = c

theorem AskedOn.mono {h h' : List Stamped} (ha : AskedOn c id token h) (hs : h <:+ h') :
    AskedOn c id token h' := by
  obtain ⟨t, past, hcalled, hrest⟩ := ha
  exact ⟨t, past, hcalled.trans hs, hrest⟩

/-- The command has been accepted on a connection, and nothing else ever is. -/
structure Accepted (c id : Nat) (token : String) (s : State) : Prop where
  asked : AskedOn c id token s.history
  quiet : s.Quiet [ticket id token]
  owes : s.Owes c (ticket id token)

theorem Accepted.turn (h : Accepted c id token s) (tracked : s.Tracked) (hcall : t.IsUncalled)
    (ht : s.turn? t = some s') : Accepted c id token s' where
  asked := h.asked.mono (State.advances_turn ht).adds.suffix
  quiet := h.quiet.turn hcall ht
  owes := h.owes.turn tracked ht

theorem Accepted.call_shutdown (h : Accepted c id token s) (tracked : s.Tracked) :
    Accepted c id token (s.call .shutdown) where
  asked := h.asked.mono (s.advances_call .shutdown).adds.suffix
  quiet := h.quiet.call_shutdown
  owes := h.owes.turn (t := .move (.call .shutdown)) tracked rfl

/-- The command waits for room in the queue. -/
structure Queueing (c id : Nat) (token : String) (s : State) : Prop where
  asked : AskedOn c id token s.history
  calls : s.calls = [(id, .queueing (ControlLine.send token).render)]
  queued : collect Event.queued? s.history = []
  untold : s.cancelled = false
  up : s.InUse c ∨ s.Failed c

end

section
variable (k : KeypadSettings) (wanted : Except CliFault String)

/-- Where the session stands in each phase of a command that is to send `wanted`. An empty token is
never accepted: it asks for nothing. -/
inductive Stands : Phase → State → Prop
  | begun {s : State} (fresh : Fresh k s) : Stands .begun s
  | refused {s : State} {f : CliFault} (hw : wanted = .error f) (fresh : Fresh k s) :
      Stands (.done (.error f)) s
  | connecting {s : State} {id : Nat} {token : String} (hw : wanted = .ok token)
      (quiet : s.Quiet []) (untold : s.cancelled = false) (calls : s.Connects id) :
      Stands (.connecting id) s
  | waiting {s : State} {deadline : Nat} {token : String} (hw : wanted = .ok token)
      (quiet : s.Quiet []) (untold : s.cancelled = false) (calls : s.calls = []) :
      Stands (.waiting deadline) s
  | queueing {s : State} {c id : Nat} {token : String} (hw : wanted = .ok token)
      (started : s.phase ≠ .idle) (queueing : Queueing c id token s) :
      Stands (.calling id (.send token)) s
  | accepted {s : State} {c id : Nat} {token : String} (hw : wanted = .ok token)
      (started : s.phase ≠ .idle) (told : s.Told id .ok)
      (accepted : token ≠ "" → Accepted c id token s) : Stands (.calling id (.send token)) s
  | declined {s : State} {id : Nat} {f : KeypadFault} {token : String} (hw : wanted = .ok token)
      (told : s.Told id (.failed f)) (quiet : s.Quiet []) : Stands (.calling id (.send token)) s
  | failing {s : State} {id : Nat} {f : CliFault} {token : String} (hw : wanted = .ok token)
      (quiet : s.Quiet []) : Stands (.leaving id (.failed f)) s
  | failed {s : State} {f : CliFault} {token : String} (hw : wanted = .ok token)
      (quiet : s.Quiet []) : Stands (.done (.error f)) s
  | sending {s : State} {c id i : Nat} {token : String} (hw : wanted = .ok token)
      (started : s.phase ≠ .idle) (leaving : s.Leaving i)
      (accepted : token ≠ "" → Accepted c id token s) : Stands (.leaving i (.sent token)) s
  | sent {s : State} {c id : Nat} {token : String} (hw : wanted = .ok token)
      (finished : s.phase.IsOver) (accepted : token ≠ "" → Accepted c id token s) :
      Stands (.done (.ok ())) s

end

variable {k : KeypadSettings} {wanted : Except CliFault String} {p : Phase} {s s' : State}
  {t : Session.Turn}

/-- A command that cannot be read leaves the keypad alone. -/
theorem Stands.of_error {f : CliFault} (h : Stands k wanted p s) (hw : wanted = .error f) :
    s.history = [] ∧ ∀ r, p = .done r → r = .error f := by
  cases h with
  | begun fresh => exact ⟨fresh.history, nofun⟩
  | refused hw' fresh =>
    obtain rfl := Except.error.inj (hw'.symm.trans hw)
    exact ⟨fresh.history, fun r hr => (Phase.done.inj hr).symm⟩
  | _ hw' => exact nomatch hw'.symm.trans hw

/-- A turn of the session leaves the command where it is. -/
theorem Stands.turn (h : Stands k wanted p s) (reached : Reached k s) (hcall : t.IsUncalled)
    (ht : s.turn? t = some s') : Stands k wanted p s' := by
  have tracked := reached.tracked
  have ha := State.advances_turn ht
  have untold' (untold : s.cancelled = false) : s'.cancelled = false :=
    (tracked.cancelled_turn hcall ht).trans untold
  have accepted' {c id : Nat} {token : String} (accepted : token ≠ "" → Accepted c id token s)
      (hne : token ≠ "") : Accepted c id token s' := (accepted hne).turn tracked hcall ht
  cases h with
  | begun fresh => exact .begun (fresh.turn hcall ht)
  | refused hw fresh => exact .refused hw (fresh.turn hcall ht)
  | connecting hw quiet untold calls =>
    exact .connecting hw (quiet.turn hcall ht) (untold' untold) (calls.turn hcall ht)
  | waiting hw quiet untold calls =>
    exact .waiting hw (quiet.turn hcall ht) (untold' untold) (State.calls_nil_turn calls hcall ht)
  | queueing hw started queueing =>
    obtain ⟨asked, calls, queued, untold, up⟩ := queueing
    have asked' := asked.mono ha.adds.suffix
    have up' := up.elim (fun hin => hin.turn_of_uncancelled tracked untold ht)
      fun hfailed => .inr (hfailed.turn ht)
    rcases State.queueing_turn calls hcall ht with
      ⟨calls', hqueued⟩ | ⟨f, told, hqueued⟩ | ⟨told, hmem, hqueued⟩
    · exact .queueing hw (ha.started started)
        ⟨asked', calls', hqueued.trans queued, untold' untold, up'⟩
    · exact .declined hw told ⟨hqueued.trans queued, by simp [told.calls]⟩
    · refine .accepted hw (ha.started started) told fun _ => ⟨asked', ?_, ?_⟩
      · exact ⟨by rw [hqueued, queued]; rfl, by simp [told.calls]⟩
      · exact up'.elim (fun hin => hin.owes (tracked.turn ht) hmem) .inl
  | accepted hw started told accepted =>
    exact .accepted hw (ha.started started) (told.turn hcall ht) (accepted' accepted)
  | declined hw told quiet => exact .declined hw (told.turn hcall ht) (quiet.turn hcall ht)
  | failing hw quiet => exact .failing hw (quiet.turn hcall ht)
  | failed hw quiet => exact .failed hw (quiet.turn hcall ht)
  | sending hw started leaving accepted =>
    exact .sending hw (ha.started started) (leaving.turn reached.held started hcall ht)
      (accepted' accepted)
  | sent hw finished accepted =>
    exact .sent hw (State.over_turn finished ht) (accepted' accepted)

section
variable (k : KeypadSettings) (wanted : Except CliFault String)

/-- Where the session stands when the command is about to make moves. -/
inductive Due : List Move → Phase → State → Prop
  | none {p : Phase} {s : State} (stands : Stands k wanted p s) : Due [] p s
  | resume {p : Phase} {s : State} {id : Nat} (stands : Stands k wanted p s) :
      Due [.resume id] p s
  | connect {s : State} {token : String} (hw : wanted = .ok token) (fresh : Fresh k s) :
      Due [.call .connect] (.connecting s.callCount) s
  | command {s : State} {token : String} (hw : wanted = .ok token) (started : s.phase ≠ .idle)
      (quiet : s.Quiet []) (untold : s.cancelled = false) (calls : s.calls = []) :
      Due [.call (.command token)] (.calling s.callCount (.send token)) s
  | giveUp {s : State} {id : Nat} {f : CliFault} {token : String} (hw : wanted = .ok token)
      (quiet : s.Quiet []) : Due [.call .shutdown] (.leaving id (.failed f)) s
  | part {s : State} {c id : Nat} {token : String} (hw : wanted = .ok token)
      (started : s.phase ≠ .idle) (calls : s.calls = [])
      (accepted : token ≠ "" → Accepted c id token s) :
      Due [.call .shutdown] (.leaving s.callCount (.sent token)) s

end

variable {ms : List Move} {m : Move}

/-- A turn of the session leaves the command where it is. -/
theorem Due.turn (h : Due k wanted ms p s) (reached : Reached k s) (hcall : t.IsUncalled)
    (ht : s.turn? t = some s') : Due k wanted ms p s' := by
  have tracked := reached.tracked
  have ha := State.advances_turn ht
  have reached' : Reached k s' := State.turn_eq ht ▸ reached.turn t
  have hcount := State.callCount_turn reached.accounted reached'.accounted hcall ht
  cases h with
  | none stands => exact .none (stands.turn reached hcall ht)
  | resume stands => exact .resume (stands.turn reached hcall ht)
  | connect hw fresh =>
    rw [← hcount]
    exact .connect hw (fresh.turn hcall ht)
  | command hw started quiet untold calls =>
    rw [← hcount]
    exact .command hw (ha.started started) (quiet.turn hcall ht)
      ((tracked.cancelled_turn hcall ht).trans untold) (State.calls_nil_turn calls hcall ht)
  | giveUp hw quiet => exact .giveUp hw (quiet.turn hcall ht)
  | part hw started calls accepted =>
    rw [← hcount]
    exact .part hw (ha.started started) (State.calls_nil_turn calls hcall ht)
      fun hne => (accepted hne).turn tracked hcall ht

theorem Due.of_error {f : CliFault} (h : Due k wanted ms p s) (hw : wanted = .error f) :
    s.history = [] ∧ ∀ r, p = .done r → r = .error f := by
  cases h with
  | none stands | resume stands => exact stands.of_error hw
  | _ hw' => exact nomatch hw'.symm.trans hw

/-- A command that is done has nothing to do. -/
theorem Due.stands {r : Except CliFault Unit} (h : Due k wanted ms (.done r) s) :
    Stands k wanted (.done r) s := by
  cases h with
  | none stands | resume stands => exact stands

/-- A command is asked for. -/
theorem stands_command {token : String} (tracked : s.Tracked) (hw : wanted = .ok token)
    (started : s.phase ≠ .idle) (quiet : s.Quiet []) (untold : s.cancelled = false)
    (calls : s.calls = []) :
    Stands k wanted (.calling s.callCount (.send token)) (s.call (.command token)) := by
  have ht : s.turn? (.move (.call (.command token))) = some (s.call (.command token)) := rfl
  have hcall := State.call_command s token
  have hbegun : ∀ p ∈ (s.begun (.command token)).calls, p.1 = s.callCount := by
    simp [State.begun, State.record, calls]
  have started' := (s.advances_call (.command token)).started started
  by_cases hempty : token = ""
  · have told : (s.call (.command token)).Told s.callCount .ok := by
      rw [hcall, if_pos hempty]
      exact State.told_returned hbegun .ok
    exact .accepted (c := 0) hw started' told (absurd hempty)
  rw [if_neg hempty] at hcall
  by_cases hpub : s.published = .connected
  · have hwaits : s.call (.command token) = (s.begun (.command token)).waiting s.callCount
        (.queueing (ControlLine.send token).render) := hcall.trans (if_pos hpub)
    have asked : AskedOn s.connections s.callCount token (s.call (.command token)).history :=
      ⟨s.now, s.history, s.begun_suffix_call token, tracked.publishedIn_eq.trans hpub,
        tracked.length_opened⟩
    refine .queueing hw started' ⟨asked, ?_, ?_, ?_, ?_⟩
    · rw [hwaits]
      simp [State.waiting, State.begun, State.record, calls]
    · rw [hwaits]
      exact (quiet.begun _).queued
    · rw [hwaits]
      exact untold
    · exact (tracked.inUse_or_failed hpub untold).elim
        (fun hin => hin.turn_of_uncancelled tracked untold ht) fun hfailed => .inr (hfailed.turn ht)
  · have hfails : s.call (.command token) =
        (s.begun (.command token)).returned s.callCount (.failed .notConnected) :=
      hcall.trans (if_neg hpub)
    rw [hfails]
    exact .declined hw (State.told_returned hbegun _) ((quiet.begun _).returned _ _)

/-- The command makes its next move. -/
theorem Due.make (h : Due k wanted (m :: ms) p s) (reached : Reached k s) :
    Due k wanted ms p (s.turn (.move m)) := by
  cases h with
  | @resume _ _ id stands =>
    cases hs : s.turn? (.move (.resume id)) with
    | none => exact .none ((State.turn_eq_self hs).symm ▸ stands)
    | some s' =>
      rw [State.turn_eq hs]
      exact .none (stands.turn reached (t := .move (.resume id)) nofun hs)
  | connect hw fresh =>
    obtain ⟨n, rfl⟩ := fresh
    refine .none (.connecting hw ⟨rfl, ?_⟩ rfl (.inl rfl))
    intro p hp
    obtain rfl := List.mem_singleton.mp hp
    rfl
  | command hw started quiet untold calls =>
    exact .none (stands_command reached.tracked hw started quiet untold calls)
  | giveUp hw quiet => exact .none (.failing hw quiet.call_shutdown)
  | part hw started calls accepted =>
    have started' := (s.advances_call .shutdown).started started
    exact .none (.sending hw started' (State.leaving_call calls)
      fun hne => (accepted hne).call_shutdown reached.tracked)

variable {program : Program} {r : Program × List Move} {command : String} {raw : Bool}
  {timeout id : Nat}

/-- The command decides on a step; it keeps its task. -/
def Leads (k : KeypadSettings) (wanted : Except CliFault String) (task : Task) (s : State)
    (r : Program × List Move) : Prop :=
  r.1.task = task ∧ Due k wanted r.2 r.1.phase s

theorem leads_start (fresh : Fresh k s) (htask : program.task = .send command raw timeout)
    (hr : program.start s = some r) :
    Leads k (Program.token? command raw) program.task s r := by
  simp only [Program.start, Program.fault?, htask] at hr
  cases hw : Program.token? command raw with
  | error f =>
    simp only [hw] at hr
    obtain rfl := Option.some.inj hr
    exact ⟨rfl, .none (.refused rfl fresh)⟩
  | ok token =>
    simp only [hw] at hr
    obtain rfl := Option.some.inj hr
    exact ⟨htask.symm, .connect rfl fresh⟩

/-- The command goes on with a call, or learns what it was told. -/
theorem leads_await {next : Reply → Program} (h : Stands k wanted program.phase s)
    (hnext : ∀ answer, s.calls.lookup id = none → replyOf id s.history = some answer →
      (next answer).task = program.task ∧ Stands k wanted (next answer).phase s)
    (hr : program.await s id next = some r) : Leads k wanted program.task s r := by
  unfold Program.await at hr
  split at hr
  · obtain rfl := Option.some.inj hr
    exact (hnext _ ‹_› ‹_›).imp_right .none
  · obtain ⟨-, hr⟩ := Option.ite_none_right_eq_some.mp hr
    obtain rfl := Option.some.inj hr
    exact ⟨rfl, .resume h⟩

theorem stands_afterConnect {answer : Reply} {token : String} (hw : wanted = .ok token)
    (htask : program.task = .send command raw timeout) (quiet : s.Quiet [])
    (untold : s.cancelled = false) (calls : s.calls = []) :
    (program.afterConnect s answer).task = program.task ∧
      Stands k wanted (program.afterConnect s answer).phase s := by
  cases answer with
  | ok =>
    have hnext : program.afterConnect s .ok = program.goTo (.waiting (s.now + timeout * 1000)) := by
      simp only [Program.afterConnect, Program.started, htask]
    rw [hnext]
    exact ⟨rfl, .waiting hw quiet untold calls⟩
  | failed f => exact ⟨rfl, .failed hw quiet⟩

theorem leads_leave_failed {f : CliFault} {token : String} (hw : wanted = .ok token)
    (quiet : s.Quiet []) (hr : program.leave s (.failed f) = some r) :
    Leads k wanted program.task s r := by
  obtain rfl := Option.some.inj hr
  exact ⟨rfl, .giveUp hw quiet⟩

theorem leads_look {deadline : Nat} {token : String} (tracked : s.Tracked)
    (hw : Program.token? command raw = .ok token)
    (htask : program.task = .send command raw timeout) (quiet : s.Quiet [])
    (untold : s.cancelled = false) (calls : s.calls = [])
    (hr : program.look s deadline = some r) :
    Leads k (Program.token? command raw) program.task s r := by
  simp only [Program.look, htask, hw] at hr
  split at hr
  · rename_i hpub
    obtain rfl := Option.some.inj hr
    exact ⟨rfl, .command hw (tracked.ne_idle hpub) quiet untold calls⟩
  · obtain ⟨-, hr⟩ := Option.ite_none_right_eq_some.mp hr
    exact leads_leave_failed hw quiet hr

/-- Whatever the command decides on fits where the session stands. -/
theorem Stands.leads (h : Stands k (Program.token? command raw) program.phase s)
    (tracked : s.Tracked) (htask : program.task = .send command raw timeout)
    (hr : program.act? s = some r) :
    Leads k (Program.token? command raw) program.task s r := by
  have hphase := h
  unfold Program.act? at hr
  generalize hp : program.phase = p at h hr
  cases h with
  | begun fresh => exact leads_start fresh htask hr
  | connecting hw quiet untold calls =>
    refine leads_await hphase (fun answer hl _ => ?_) hr
    exact stands_afterConnect hw htask quiet untold (calls.eq_nil hl)
  | waiting hw quiet untold calls => exact leads_look tracked hw htask quiet untold calls hr
  | @queueing _ c id token hw started queueing =>
    simp only [State.lookup_alone queueing.calls] at hr
    obtain ⟨-, hr⟩ := Option.ite_none_right_eq_some.mp hr
    obtain rfl := Option.some.inj hr
    exact ⟨rfl, .resume hphase⟩
  | @accepted _ c id token hw started told accepted =>
    have hl : s.calls.lookup id = none := by rw [told.calls, List.lookup_nil]
    simp only [hl, told.reply] at hr
    obtain rfl := Option.some.inj hr
    exact ⟨rfl, .part hw started told.calls accepted⟩
  | @declined _ id f token hw told quiet =>
    have hl : s.calls.lookup id = none := by rw [told.calls, List.lookup_nil]
    simp only [hl, told.reply] at hr
    exact leads_leave_failed hw quiet hr
  | failing hw quiet =>
    refine leads_await hphase ?_ hr
    exact fun _ _ _ => ⟨rfl, .failed hw quiet⟩
  | sending hw started leaving accepted =>
    refine leads_await hphase ?_ hr
    exact fun _ hl _ => ⟨rfl, .sent hw (leaving.over hl) accepted⟩
  | refused | failed | sent => exact nomatch hr

variable {e e' : Dispatch}

/-- What holds of every dispatch. -/
structure Sound (k : KeypadSettings) (command : String) (raw : Bool) (timeout : Nat) (e : Dispatch) :
    Prop where
  reached : Reached k e.session
  task : e.program.task = .send command raw timeout
  due : Due k (Program.token? command raw) e.due e.program.phase e.session

theorem Sound.turn (h : Sound k command raw timeout e) {t : Turn} (ht : e.turn? t = some e') :
    Sound k command raw timeout e' := by
  obtain ⟨program, s, due⟩ := e
  obtain ⟨reached, htask, hdue⟩ := h
  cases t with
  | session t =>
    obtain ⟨hcall, he⟩ := Option.ite_none_left_eq_some.mp ht
    obtain rfl := Option.some.inj he
    refine ⟨reached.turn t, htask, ?_⟩
    change Due k _ due program.phase (s.turn t)
    cases hs : s.turn? t with
    | none => exact (State.turn_eq_self hs).symm ▸ hdue
    | some s' =>
      rw [State.turn_eq hs]
      exact hdue.turn reached (isUncalled_of_isCall hcall) hs
  | act =>
    cases due with
    | cons m ms => exact nomatch ht
    | nil =>
      obtain ⟨r, hr, rfl⟩ := Option.map_eq_some_iff.mp ht
      cases hdue with
      | none stands =>
        obtain ⟨htask', hdue⟩ := stands.leads reached.tracked htask hr
        exact ⟨reached, htask'.trans htask, hdue⟩
  | make =>
    cases due with
    | nil => exact nomatch ht
    | cons m ms =>
      obtain rfl := Option.some.inj ht
      exact ⟨reached.turn _, htask, hdue.make reached⟩

theorem Sound.run (k : KeypadSettings) (endpoint : String) (terminal : Bool) (command : String)
    (raw : Bool) (timeout : Nat) (ts : List Turn) :
    Sound k command raw timeout ((new k endpoint terminal command raw timeout).run ts) :=
  run_induction (fun _ _ _ h ht => h.turn ht)
    ⟨⟨[], rfl⟩, rfl, .none (.begun ⟨0, rfl⟩)⟩ ts

/-- What was accepted has gone over once, or not at all because the connection has failed. -/
theorem Accepted.outcome {c id : Nat} {token : String} (h : Accepted c id token s)
    (tracked : s.Tracked) (hover : s.phase.IsOver) :
    sends s.history = ["!SEND:" ++ token] ∧ WentOver ("!SEND:" ++ token) s.history ∨
      sends s.history = [] ∧ s.Failed c := by
  obtain ⟨q, ht, -⟩ := tracked
  have hsub := ht.sends_sublist
  rw [h.quiet.queued, List.map_singleton, ticket, render_send] at hsub
  rcases List.sublist_singleton.mp hsub with hnone | hone
  · refine .inr ⟨hnone, ?_⟩
    refine (h.owes.sent hover (isSend_render token)).resolve_left fun hmem => ?_
    exact List.not_mem_nil (hnone ▸ hmem)
  · exact .inl ⟨hone, ht.wentOver (hone ▸ List.mem_cons_self)⟩

theorem sends_of_quiet (quiet : s.Quiet []) (tracked : s.Tracked) : sends s.history = [] := by
  obtain ⟨q, ht, -⟩ := tracked
  have hsub := ht.sends_sublist
  rw [quiet.queued] at hsub
  exact List.sublist_nil.mp hsub

end Dispatch

/-- How a command that sends a line ends. One that cannot be read leaves the keypad alone and fails.
After a failure no command line has gone over. After a success the one line has gone over, or none
has and the connection on which it was accepted has failed. -/
theorem dispatch_outcome (k : KeypadSettings) (endpoint : String) (terminal : Bool)
    (command : String) (raw : Bool) (timeout : Nat) (ts : List Dispatch.Turn) :
    let e := (Dispatch.new k endpoint terminal command raw timeout).run ts
    let h := e.session.history
    (∀ f, Program.token? command raw = .error f →
      h = [] ∧ ∀ r, e.program.phase = .done r → r = .error f) ∧
    (∀ f, e.program.phase = .done (.error f) → sends h = []) ∧
    (e.program.phase = .done (.ok ()) → ∃ token, Program.token? command raw = .ok token ∧
      (token ≠ "" → ∃ c id, Dispatch.AskedOn c id token h ∧
        (sends h = ["!SEND:" ++ token] ∧ WentOver ("!SEND:" ++ token) h ∨
          sends h = [] ∧ e.session.Failed c))) := by
  intro e h
  obtain ⟨reached, -, due⟩ := Dispatch.Sound.run k endpoint terminal command raw timeout ts
  change Dispatch.Due k _ e.due e.program.phase e.session at due
  have tracked : e.session.Tracked := reached.tracked
  refine ⟨fun f hw => due.of_error hw, fun f hp => ?_, fun hp => ?_⟩
  · rw [hp] at due
    cases due.stands with
    | refused hw fresh => exact congrArg sends fresh.history
    | failed hw quiet => exact Dispatch.sends_of_quiet quiet tracked
  · rw [hp] at due
    cases due.stands with
    | sent hw finished accepted =>
      exact ⟨_, hw, fun hne =>
        ⟨_, _, (accepted hne).asked, (accepted hne).outcome tracked finished⟩⟩

namespace Dispatch

/-- The command is accepted, and the keypad is told to shut down. -/
def accepts : List Turn :=
  [.act, .make, .act, .make, .act] ++ Session.Turn.connects.map .session ++
    [.act, .make, .act, .make, .act, .make, .act, .make]

/-- The line that waits goes over, or does not; then the connection is closed. -/
def ends (m : Move) : List Turn :=
  ([.act, .act, m, .act, .act, .closed, .act, .act].map fun m => .session (.move m)) ++
    [.act, .make, .act]

set_option maxRecDepth 10000 in
/-- The line cannot be handed over, and the command says that it has been sent. -/
theorem disarm_unsent :
    let e := (new .default "panel" false "<DISARM>" false 10).run (accepts ++ ends .handFailed)
    e.program.phase = .done (.ok ()) ∧ e.program.prints = [.sent "<DISARM>"] ∧
      sends e.session.history = [] := by
  refine ⟨?_, by decide +kernel, by decide +kernel⟩
  rfl

set_option maxRecDepth 10000 in
/-- The line is handed over. -/
theorem disarm_sent :
    let e := (new .default "panel" false "<DISARM>" false 10).run (accepts ++ ends .handed)
    e.program.phase = .done (.ok ()) ∧ sends e.session.history = ["!SEND:<DISARM>"] := by
  intro e
  have hp : e.program.phase = .done (.ok ()) := rfl
  obtain ⟨-, -, hok⟩ :=
    dispatch_outcome .default "panel" false "<DISARM>" false 10 (accepts ++ ends .handed)
  obtain ⟨token, htoken, hsent⟩ := hok hp
  obtain rfl : "<DISARM>" = token := Except.ok.inj htoken
  obtain ⟨c, id, -, ⟨hs, -⟩ | ⟨-, hfailed⟩⟩ := hsent (by decide)
  · exact ⟨hp, hs⟩
  · have hlost : collect Event.lost? e.session.history = [] := by decide +kernel
    have hcrash : e.session.phase ≠ .crashed := by decide +kernel
    rcases hfailed with hmem | hcrash'
    · exact nomatch hlost ▸ hmem
    · exact absurd hcrash' hcrash

end Dispatch
end AlarmKeypad.Cli
