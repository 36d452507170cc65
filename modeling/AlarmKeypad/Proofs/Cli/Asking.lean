import AlarmKeypad.Proofs.Cli.Calling

namespace AlarmKeypad.Session

variable {k : KeypadSettings} {h h' : List Stamped} {t : Nat} {snap : Snapshot}

/-- A line that is a snapshot comes in at a time. -/
def Brings (h : List Stamped) (t : Nat) (snap : Snapshot) : Prop :=
  ∃ c line, ⟨t, .received c line⟩ ∈ h ∧ Snapshot.ofLine? line = some snap

theorem Brings.mono (hb : Brings h t snap) (hs : h <:+ h') : Brings h' t snap := by
  obtain ⟨c, line, hmem, hline⟩ := hb
  exact ⟨c, line, hs.mem hmem, hline⟩

theorem mem_snapshots : snap ∈ snapshots h ↔ ∃ t, Brings h t snap := by
  refine mem_collect.trans ⟨?_, ?_⟩
  · rintro ⟨⟨t, e⟩, he, hsnap⟩
    cases e with
    | received c line => exact ⟨t, c, line, he, hsnap⟩
    | _ => exact nomatch hsnap
  · rintro ⟨t, c, line, hmem, hline⟩
    exact ⟨_, hmem, hline⟩

/-- A session that nobody asks for anything says nothing but its greetings and heartbeats. -/
theorem Tracks.unasked {q : Track} (ht : Tracks k h q) (hq : collect Event.queued? h = [])
    {o : Handover} (ho : o ∈ collect Event.handover? h) :
    o.source = .greeting ∧ o.line = "!SYNC:" ++ Text.decimalString k.partition.toNat ++ "," ++
      Text.decimalString k.code.toNat ∨
    o.source = .heartbeat ∧ o.line = "!PING:" ++ k.pingMask := by
  obtain ⟨e, past, he, hover⟩ := exists_suffix_of_mem_collect ho
  have horderly := ht.orderly he hover
  by_cases hfirst : handoversOn o.connection past = []
  · exact .inl (horderly.first hfirst)
  · rcases horderly.later hfirst with ⟨hsource, hline, -⟩ | ⟨id, rest, -, hqueued⟩
    · exact .inr ⟨hsource, hline⟩
    · have hpast : collect Event.queued? past <+: collect Event.queued? h :=
        collect_isPrefix ((List.suffix_cons e past).trans he)
      rw [hq, List.prefix_nil, hqueued] at hpast
      simp at hpast

namespace State

variable {s s' : State} {u : Turn}

/-- What the keypad knows it has been told. -/
theorem Agrees.brings (ha : s.Agrees) (hd : s.Dated) (hs : s.snapshot = some snap) :
    ∃ t ≤ s.now, Brings s.history t snap := by
  have hlast : (snapshots s.history).getLast? = some snap := ha.snapshot ▸ hs
  obtain ⟨t, c, line, hmem, hline⟩ := mem_snapshots.mp (List.mem_of_getLast? hlast)
  exact ⟨t, hd _ hmem, c, line, hmem, hline⟩

theorem Agrees.not_brings (ha : s.Agrees) (hs : s.snapshot = none) : ¬Brings s.history t snap := by
  intro hb
  have hnone : snapshots s.history = [] := List.getLast?_eq_none_iff.mp (ha.snapshot ▸ hs)
  exact List.not_mem_nil (hnone ▸ mem_snapshots.mpr ⟨t, hb⟩)

theorem brings_turn (hu : s.turn? u = some s') (hb : Brings s'.history t snap) :
    Brings s.history t snap ∨ t = s.now := by
  obtain ⟨c, line, hmem, hline⟩ := hb
  exact (stamped_turn hu _ hmem).imp_left fun hold => ⟨c, line, hold, hline⟩

end State
end AlarmKeypad.Session

namespace AlarmKeypad.Cli

open Session

namespace Dispatch

/-- The command that asks for the mode. -/
def asking (k : KeypadSettings) (endpoint : String) (terminal : Bool) (timeout : Nat) : Dispatch :=
  ⟨.new (.mode timeout) endpoint terminal, .init k, []⟩

namespace Asking

section
variable (k : KeypadSettings) (endpoint : String) (timeout : Nat) (b : Prop)

/-- What an outcome rests on: a snapshot that has come, or that none has come in time. If the
command is on time, the snapshot has come in time, too. -/
inductive Rests : Outcome → State → Prop
  | mode {snap : Snapshot} {t : Nat} {s : State} (brings : Brings s.history t snap)
      (intime : b → t ≤ timeout * 1000) : Rests (.mode snap) s
  | late {s : State} (passed : timeout * 1000 ≤ s.now)
      (none : ∀ t snap, Brings s.history t snap → timeout * 1000 ≤ t) :
      Rests (.failed (.timeout timeout "the first snapshot" endpoint)) s

/-- Where the command and the session stand with each other, how many rounds are left to the end,
and the turn that is waited for. -/
inductive Stands : Nat → Turn → Phase → List Print → List Move → State → Prop
  | begun {s : State} (fresh : Fresh k s) (early : b → s.now = 0) : Stands 24 .act .begun [] [] s
  | calling {s : State} (fresh : Fresh k s) (early : b → s.now = 0) :
      Stands 23 .make (.connecting 0) [] [.call .connect] s
  | connecting {n : Nat} {t : Turn} {ms : List Move} {s : State} (starts : Starts k n t ms s)
      (early : b → s.now = 0) : Stands (n + 18) t (.connecting 0) [] ms s
  | waiting {deadline : Nat} {s : State} (runs : Runs s) (after : timeout * 1000 ≤ deadline)
      (intime : b → deadline = timeout * 1000 ∧ s.now ≤ deadline) :
      Stands 18 .act (.waiting deadline) [] [] s
  | parting {o : Outcome} {s : State} (runs : Runs s) (rests : Rests endpoint timeout b o s) :
      Stands 17 .make (.leaving s.callCount o) [] [.call .shutdown] s
  | leaving {n id : Nat} {t : Turn} {o : Outcome} {ms : List Move} {s : State}
      (stops : Stops id n t ms s) (told : s.cancelled = true) (started : s.phase ≠ .idle)
      (rests : Rests endpoint timeout b o s) : Stands n t (.leaving id o) [] ms s
  | answered {snap : Snapshot} {s : State} (rests : Rests endpoint timeout b (.mode snap) s) :
      Stands 0 .act (.done (.ok ())) [.mode (.ofState snap) (some snap.alpha)] [] s
  | failed {f : CliFault} {s : State} (rests : Rests endpoint timeout b (.failed f) s) :
      Stands 0 .act (.done (.error f)) [] [] s

end

variable {k : KeypadSettings} {endpoint : String} {timeout n : Nat} {b : Prop} {t : Turn}
  {ms : List Move} {m : Move} {s s' : State} {u : Session.Turn} {program : Program} {o : Outcome}

theorem Rests.turn (h : Rests endpoint timeout b o s) (hu : s.turn? u = some s') :
    Rests endpoint timeout b o s' := by
  cases h with
  | mode brings intime => exact .mode (brings.mono (State.advances_turn hu).adds.suffix) intime
  | late passed none =>
    refine .late (passed.trans (State.now_turn hu ▸ Nat.le_add_right _ _)) fun t snap hb => ?_
    rcases State.brings_turn hu hb with hold | rfl
    · exact none t snap hold
    · exact passed

/-- Before its wait the command can always go on. -/
theorem Stands.acts (h : Stands k endpoint timeout b n .act program.phase program.prints [] s)
    (htask : program.task = .mode timeout) (hn : n ≠ 0)
    (hripe : ∀ d, program.phase = .waiting d → s.snapshot ≠ none ∨ d ≤ s.now) :
    (program.act? s).isSome = true := by
  unfold Program.act?
  generalize program.phase = p, program.prints = ps at h hripe
  cases h with
  | begun => simp [Program.start, Program.fault?, htask, Program.begin]
  | connecting starts => exact starts.acts
  | waiting =>
    have hready := hripe _ rfl
    simp only [Program.look, htask]
    split
    · rfl
    · rename_i hnone
      rw [if_pos (hready.resolve_left (absurd hnone))]
      rfl
  | leaving stops => exact stops.acts
  | answered | failed => exact absurd rfl hn

/-- A turn of the session. -/
theorem Stands.turn (h : Stands k endpoint timeout b n t program.phase program.prints ms s)
    (htask : program.task = .mode timeout) (reached : Reached k s) (quiet : s.Quiet [])
    (hcall : u.IsUncalled) (htime : b → u.passes = 0 ∨ MayPass ⟨program, s, ms⟩ u.passes)
    (hu : s.turn? u = some s') :
    Stands k endpoint timeout b n t program.phase program.prints ms s' ∧ .session u ≠ t ∨
      ∃ m < n, ∃ t', Stands k endpoint timeout b m t' program.phase program.prints ms s' := by
  have tracked := reached.tracked
  have hnow := State.now_turn hu
  -- no time passes while the command has something to do
  have still (hacts : ms = [] → (program.act? s).isSome = true) (early : b → s.now = 0)
      (hb : b) : s'.now = 0 := by
    rcases htime hb with hzero | ⟨hdue, hact, -⟩
    · rw [hnow, hzero, early hb]
    · exact absurd (hacts hdue) (by simp [show program.act? s = none from hact])
  have htimer (d : Nat) (hd : program.timer? = some d) (hle : s.now ≤ d) (hb : b) :
      s'.now ≤ d := by
    rcases htime hb with hzero | ⟨-, -, hpass⟩
    · rwa [hnow, hzero]
    · exact hnow ▸ hpass d hd
  generalize hp : program.phase = p, program.prints = ps at h
  cases h with
  | begun fresh early =>
    have hacts : (program.act? s).isSome = true := by
      simp [Program.act?, hp, Program.start, Program.fault?, htask, Program.begin]
    exact .inl ⟨.begun (fresh.turn hcall hu) (still (fun _ => hacts) early), nofun⟩
  | calling fresh early =>
    exact .inl ⟨.calling (fresh.turn hcall hu) (still nofun early), nofun⟩
  | connecting starts early =>
    have hacts (hms : ms = []) : (program.act? s).isSome = true := by
      subst hms
      simp only [Program.act?, hp]
      exact starts.acts
    have early' := still hacts early
    rcases starts.turn tracked hcall hu with ⟨starts', hne⟩ | ⟨m, hm, t', starts'⟩
    · exact .inl ⟨.connecting starts' early', hne⟩
    · exact .inr ⟨_, by omega, t', .connecting starts' early'⟩
  | @waiting deadline _ runs after intime =>
    have hd : program.timer? = some deadline := by simp [Program.timer?, hp]
    refine .inl ⟨.waiting (runs.turn tracked hcall hu) after fun hb => ?_, nofun⟩
    exact ⟨(intime hb).1, htimer deadline hd (intime hb).2 hb⟩
  | parting runs rests =>
    have reached' : Reached k s' := State.turn_eq hu ▸ reached.turn u
    have hcount := State.callCount_turn reached.accounted reached'.accounted hcall hu
    refine .inl ⟨?_, nofun⟩
    rw [← hcount]
    exact .parting (runs.turn tracked hcall hu) (rests.turn hu)
  | leaving stops told started rests =>
    have ha := State.advances_turn hu
    rcases stops.turn told (quiet.queue_eq_nil tracked) started hcall hu with
      ⟨stops', hne⟩ | ⟨m, hm, t', stops'⟩
    · exact .inl ⟨.leaving stops' (ha.told told) (ha.started started) (rests.turn hu), hne⟩
    · exact .inr ⟨m, hm, t', .leaving stops' (ha.told told) (ha.started started) (rests.turn hu)⟩
  | answered rests => exact .inl ⟨.answered (rests.turn hu), nofun⟩
  | failed rests => exact .inl ⟨.failed (rests.turn hu), nofun⟩

/-- The command makes its next move. -/
theorem Stands.make (h : Stands k endpoint timeout b n t program.phase program.prints (m :: ms) s) :
    ∃ n' < n, ∃ t', Stands k endpoint timeout b n' t' program.phase program.prints ms
      (s.turn (.move m)) := by
  generalize program.phase = p, program.prints = ps at h ⊢
  cases h with
  | calling fresh early =>
    obtain ⟨i, rfl⟩ := fresh
    exact ⟨_, by decide, _, .connecting (.called ⟨i, i, rfl⟩) early⟩
  | connecting starts early =>
    obtain ⟨rfl, rfl⟩ := starts.due
    have hnow : (s.turn (.move (.resume 0))).now = s.now := by
      cases hs : s.turn? (.move (.resume 0)) with
      | none => rw [State.turn_eq_self hs]
      | some s' => exact State.turn_eq hs ▸ State.now_turn hs
    obtain ⟨i, hi, t', starts'⟩ := starts.make
    exact ⟨_, by omega, t', .connecting starts' fun hb => hnow.trans (early hb)⟩
  | parting runs rests =>
    have hturn : s.turn? (.move (.call .shutdown)) = some (s.call .shutdown) := rfl
    rw [State.turn_eq hturn]
    have stops : Stops s.callCount _ .act [] (s.call .shutdown) :=
      .called (by simp [State.call, State.waiting, State.record, runs.calls])
    have hrem := (s.call .shutdown).phase.remaining_le
    exact ⟨_, by omega, _,
      .leaving stops rfl ((State.advances_turn hturn).started runs.started) (rests.turn hturn)⟩
  | leaving stops told started rests =>
    obtain ⟨rfl, rfl⟩ := stops.due
    obtain ⟨i, hi, t', stops'⟩ := stops.make
    refine ⟨i, hi, t', ?_⟩
    cases hs : s.turn? (.move (.resume _)) with
    | none =>
      rw [State.turn_eq_self hs] at stops' ⊢
      exact .leaving stops' told started rests
    | some s' =>
      rw [State.turn_eq hs] at stops' ⊢
      have ha := State.advances_turn hs
      exact .leaving stops' (ha.told told) (ha.started started) (rests.turn hs)

/-- The command decides on a step; it keeps its task and its endpoint. -/
structure Leads (k : KeypadSettings) (endpoint : String) (timeout : Nat) (b : Prop) (n : Nat)
    (s : State) (p : Program) (r : Program × List Move) : Prop where
  task : r.1.task = p.task
  name : r.1.endpoint = p.endpoint
  stands : ∃ m < n, ∃ t, Stands k endpoint timeout b m t r.1.phase r.1.prints r.2 s

theorem Stands.act {r : Program × List Move}
    (h : Stands k endpoint timeout b n t program.phase program.prints [] s)
    (htask : program.task = .mode timeout) (hname : program.endpoint = endpoint)
    (agrees : s.Agrees) (dated : s.Dated) (hr : program.act? s = some r) :
    Leads k endpoint timeout b n s program r := by
  unfold Program.act? at hr
  generalize hp : program.phase = p, hps : program.prints = ps at h hr
  cases h with
  | begun fresh early =>
    simp only [Program.start, Program.fault?, htask] at hr
    obtain rfl := Option.some.inj hr
    have hcount : s.callCount = 0 := by
      obtain ⟨i, rfl⟩ := fresh
      rfl
    refine ⟨htask.symm, rfl, 23, by decide, .make, ?_⟩
    have calling : Stands k endpoint timeout b 23 .make (.connecting s.callCount) []
        [.call .connect] s := hcount ▸ .calling fresh early
    exact hps ▸ calling
  | connecting starts early =>
    rcases starts.act hr with ⟨rfl, runs⟩ | ⟨rfl, m, hm, t', starts'⟩
    · have hnext : program.afterConnect s .ok =
          program.goTo (.waiting (s.now + timeout * 1000)) := by
        simp only [Program.afterConnect, Program.started, htask]
      rw [hnext]
      have waiting :
          Stands k endpoint timeout b 18 .act (.waiting (s.now + timeout * 1000)) [] [] s := by
        refine .waiting runs (Nat.le_add_left _ _) fun hb => ?_
        rw [early hb]
        omega
      exact ⟨rfl, rfl, 18, Nat.lt_add_of_pos_left starts.pos, .act, hps ▸ waiting⟩
    · have connecting : Stands k endpoint timeout b (m + 18) t' (.connecting 0) [] [.resume 0] s :=
        .connecting starts' early
      exact ⟨rfl, rfl, m + 18, by omega, t', hp ▸ hps ▸ connecting⟩
  | @waiting deadline _ runs after intime =>
    simp only [Program.look, htask, hname] at hr
    split at hr
    · rename_i snap hsnap
      -- a snapshot has come by the deadline
      obtain ⟨t, hle, brings⟩ := agrees.brings dated hsnap
      obtain rfl := Option.some.inj hr
      have rests : Rests endpoint timeout b (.mode snap) s :=
        .mode brings fun hb => (hle.trans (intime hb).2).trans (Nat.le_of_eq (intime hb).1)
      have parting : Stands k endpoint timeout b 17 .make (.leaving s.callCount (.mode snap)) []
          [.call .shutdown] s := .parting runs rests
      exact ⟨rfl, rfl, 17, by decide, .make, hps ▸ parting⟩
    · rename_i hnone
      -- none has come, and the deadline has passed
      obtain ⟨hlate, hr⟩ := Option.ite_none_right_eq_some.mp hr
      obtain rfl := Option.some.inj hr
      have rests : Rests endpoint timeout b
          (.failed (.timeout timeout "the first snapshot" endpoint)) s :=
        .late (after.trans hlate) fun t snap hb => absurd hb (agrees.not_brings hnone)
      have parting : Stands k endpoint timeout b 17 .make
          (.leaving s.callCount (.failed (.timeout timeout "the first snapshot" endpoint))) []
          [.call .shutdown] s := .parting runs rests
      exact ⟨rfl, rfl, 17, by decide, .make, hps ▸ parting⟩
  | @leaving n id t o ms _ stops told started rests =>
    -- either the call has returned and the command says how it ends, or it goes on with the call
    rcases stops.act hr with rfl | ⟨rfl, m, hm, t', stops'⟩
    · cases rests with
      | @mode snap _ _ brings intime =>
        have answered : Stands k endpoint timeout b 0 .act (.done (.ok ()))
            [.mode (.ofState snap) (some snap.alpha)] [] s := .answered (.mode brings intime)
        refine ⟨rfl, rfl, 0, stops.pos, .act, ?_⟩
        change Stands k endpoint timeout b 0 .act (.done (.ok ())) (_ :: program.prints) [] s
        rw [hps]
        exact answered
      | late passed none =>
        have failed : Stands k endpoint timeout b 0 .act (.done (.error _)) [] [] s :=
          .failed (.late passed none)
        exact ⟨rfl, rfl, 0, stops.pos, .act, hps ▸ failed⟩
    · have leaving : Stands k endpoint timeout b m t' (.leaving id o) [] [.resume id] s :=
        .leaving stops' told started rests
      exact ⟨rfl, rfl, m, hm, t', hp ▸ hps ▸ leaving⟩
  | answered | failed => exact nomatch hr

theorem Stands.suits (h : Stands k endpoint timeout b n t program.phase program.prints ms s)
    (hn : n ≠ 0) : t.Suits ms := by
  generalize program.phase = p, program.prints = ps at h
  cases h with
  | connecting starts => exact starts.suits
  | leaving stops => exact stops.suits
  | answered | failed => exact absurd rfl hn
  | _ => simp [Turn.Suits, onward]

/-- A turn of the session that is waited for is possible. -/
theorem Stands.possible
    (h : Stands k endpoint timeout b n (.session u) program.phase program.prints ms s)
    (reached : Reached k s) (quiet : s.Quiet []) : (s.turn? u).isSome = true := by
  generalize program.phase = p, program.prints = ps at h
  cases h with
  | connecting starts => cases starts
  | leaving stops told started =>
    exact stops.possible told (quiet.queue_eq_nil reached.tracked) started

/-- No move of the command queues a line. -/
theorem Stands.quiet (h : Stands k endpoint timeout b n t program.phase program.prints (m :: ms) s)
    (quiet : s.Quiet []) : (s.turn (.move m)).Quiet [] := by
  have resumed (id : Nat) : (s.turn (.move (.resume id))).Quiet [] := by
    cases hs : s.turn? (.move (.resume id)) with
    | none => exact (State.turn_eq_self hs).symm ▸ quiet
    | some s' => exact State.turn_eq hs ▸ quiet.resume hs
  generalize program.phase = p, program.prints = ps at h
  cases h with
  | calling fresh early =>
    obtain ⟨i, rfl⟩ := fresh
    exact ⟨rfl, by simp [State.turn, State.turn?, State.move?, State.call, State.init,
      State.record, State.waiting, Call.line?]⟩
  | connecting starts early =>
    obtain ⟨rfl, -⟩ := starts.due
    exact resumed 0
  | parting => exact quiet.call_shutdown
  | leaving stops =>
    obtain ⟨rfl, -⟩ := stops.due
    exact resumed _

section
variable (k : KeypadSettings) (endpoint : String) (timeout : Nat) (b : Prop)

/-- What holds of every command that asks for the mode. -/
structure Sound (n : Nat) (t : Turn) (e : Dispatch) : Prop where
  reached : Reached k e.session
  quiet : e.session.Quiet []
  task : e.program.task = .mode timeout
  name : e.program.endpoint = endpoint
  stands : Stands k endpoint timeout b n t e.program.phase e.program.prints e.due e.session

/-- A snapshot has come, or the time for one is over. -/
def Ripe (e : Dispatch) : Prop :=
  (∃ t snap, Brings e.session.history t snap) ∨ b ∧ timeout * 1000 ≤ e.session.now

end

variable {e e' : Dispatch}

theorem Sound.turn (h : Sound k endpoint timeout b n t e) {u : Turn} (hb : b → e.OnTime u)
    (hu : e.turn? u = some e') :
    Sound k endpoint timeout b n t e' ∧ u ≠ t ∨
      ∃ m < n, ∃ t', Sound k endpoint timeout b m t' e' := by
  obtain ⟨program, s, ms⟩ := e
  obtain ⟨reached, quiet, htask, hname, stands⟩ := h
  cases u with
  | session u =>
    obtain ⟨hcall, he⟩ := Option.ite_none_left_eq_some.mp hu
    obtain rfl := Option.some.inj he
    have hcall := isUncalled_of_isCall hcall
    cases hs : s.turn? u with
    | none =>
      simp only [State.turn_eq_self hs]
      refine .inl ⟨⟨reached, quiet, htask, hname, stands⟩, ?_⟩
      rintro rfl
      simpa [hs] using stands.possible reached quiet
    | some s' =>
      simp only [State.turn_eq hs]
      have reached' : Reached k s' := State.turn_eq hs ▸ reached.turn u
      have sound' {m : Nat} {t' : Turn}
          (h : Stands k endpoint timeout b m t' program.phase program.prints ms s') :
          Sound k endpoint timeout b m t' ⟨program, s', ms⟩ :=
        ⟨reached', quiet.turn hcall hs, htask, hname, h⟩
      rcases stands.turn htask reached quiet hcall hb hs with ⟨h, hne⟩ | ⟨m, hm, t', h⟩
      · exact .inl ⟨sound' h, hne⟩
      · exact .inr ⟨m, hm, t', sound' h⟩
  | act =>
    cases ms with
    | cons m ms => exact nomatch hu
    | nil =>
      obtain ⟨r, hr, rfl⟩ := Option.map_eq_some_iff.mp hu
      obtain ⟨htask', hname', m, hm, t', h⟩ :=
        stands.act htask hname reached.agrees reached.dated hr
      exact .inr ⟨m, hm, t', reached, quiet, htask'.trans htask, hname'.trans hname, h⟩
  | make =>
    cases ms with
    | nil => exact nomatch hu
    | cons m ms =>
      obtain rfl := Option.some.inj hu
      obtain ⟨n', hn, t', h⟩ := stands.make
      exact .inr ⟨n', hn, t', reached.turn _, stands.quiet quiet, htask, hname, h⟩

/-- A command that waits can go on once it has what it waits for. -/
theorem Stands.ready (h : Stands k endpoint timeout b n t program.phase program.prints ms s)
    {d : Nat} (hd : program.phase = .waiting d) (agrees : s.Agrees)
    (ripe : Ripe timeout b ⟨program, s, ms⟩) : s.snapshot ≠ none ∨ d ≤ s.now := by
  rw [hd] at h
  generalize program.prints = ps at h
  cases h with
  | waiting runs after intime =>
    refine ripe.imp ?_ fun ⟨hb, hpassed⟩ => (intime hb).1 ▸ hpassed
    rintro ⟨t, snap, hbrings⟩ hnone
    exact agrees.not_brings hnone hbrings

/-- With no rounds left the command is done. -/
theorem Stands.done (h : Stands k endpoint timeout b 0 t program.phase program.prints ms s) :
    ∃ r, program.phase = .done r := by
  generalize program.phase = p, program.prints = ps, hn : 0 = n at h ⊢
  cases h with
  | leaving stops => exact absurd hn (Nat.ne_of_lt stops.pos)
  | answered | failed => exact ⟨_, rfl⟩
  | _ => omega

theorem Sound.new (k : KeypadSettings) (endpoint : String) (terminal : Bool) (timeout : Nat)
    (b : Prop) : Sound k endpoint timeout b 24 .act (asking k endpoint terminal timeout) where
  reached := ⟨[], rfl⟩
  quiet := ⟨rfl, nofun⟩
  task := rfl
  name := rfl
  stands := .begun ⟨0, rfl⟩ fun _ => rfl

/-- While the command is on its way, the turn that is waited for is possible. -/
theorem Sound.possible (h : Sound k endpoint timeout b n t e) (ripe : Ripe timeout b e)
    (hn : n ≠ 0) : (e.turn? t).isSome = true := by
  obtain ⟨program, s, ms⟩ := e
  obtain ⟨reached, quiet, htask, hname, stands⟩ := h
  obtain ⟨hmem, hact, hmake⟩ := stands.suits hn
  cases t with
  | session u =>
    have hu : u = .move .act ∨ u = .move .handed ∨ u = .move .closed := by
      simpa [onward] using hmem
    rcases hu with rfl | rfl | rfl <;> rfl
  | act =>
    obtain rfl : ms = [] := hact rfl
    have hacts := stands.acts htask hn fun d hd => stands.ready hd reached.agrees ripe
    simpa [turn?] using hacts
  | make =>
    cases ms with
    | nil => exact absurd rfl (hmake rfl)
    | cons m ms => rfl

theorem Ripe.turn (h : Ripe timeout b e) {u : Turn} (hu : e.turn? u = some e') :
    Ripe timeout b e' := by
  rcases session_turn hu with hs | ⟨v, hs⟩
  · unfold Ripe
    rwa [hs]
  · unfold Ripe
    rw [hs]
    refine h.imp (fun ⟨t, snap, hb⟩ => ⟨t, snap, hb.mono (e.session.history_suffix_run [v])⟩) ?_
    exact And.imp_right fun hle => hle.trans (State.now_le_turn _ v)

theorem countdown (k : KeypadSettings) (endpoint : String) (timeout : Nat) (b : Prop) :
    Countdown b (Sound k endpoint timeout b) (Ripe timeout b) where
  turn h hb hu := h.turn hb hu
  ready h hu := h.turn hu
  onward h ripe hn := ⟨(h.stands.suits hn).1, h.possible ripe hn⟩

/-- What has been printed, and what an end rests on. -/
theorem Stands.outcome
    (h : Stands k endpoint timeout b n t program.phase program.prints ms s) :
    (program.prints = [] ∧ (∀ r, program.phase = .done r →
        r = .error (.timeout timeout "the first snapshot" endpoint) ∧
          ∀ t snap, Brings s.history t snap → timeout * 1000 ≤ t)) ∨
      ∃ t snap, Brings s.history t snap ∧ (b → t ≤ timeout * 1000) ∧
        program.prints = [.mode (.ofState snap) (some snap.alpha)] ∧
        program.phase = .done (.ok ()) := by
  generalize program.phase = p, program.prints = ps at h ⊢
  cases h with
  | answered rests =>
    cases rests with
    | mode brings intime => exact .inr ⟨_, _, brings, intime, rfl, rfl⟩
  | failed rests =>
    cases rests with
    | late passed none =>
      refine .inl ⟨rfl, ?_⟩
      rintro r ⟨⟩
      exact ⟨rfl, none⟩
  | _ => exact .inl ⟨rfl, nofun⟩

end Asking
end Dispatch

/-- How the command that asks for the mode ends. All that it prints is the mode and the text of one
snapshot that has come, and it prints that exactly if it succeeds; it fails only for want of a
snapshot in time. Nothing goes over any connection but greetings and heartbeats. It does not fail if
a snapshot has come before the time given; and if it is on time it does not succeed if none has come
by then. Once a snapshot has come, or the time is over, it comes to its end within 24 rounds. -/
theorem mode_from_snapshot (k : KeypadSettings) (endpoint : String) (terminal : Bool)
    (timeout : Nat) (ts : List Dispatch.Turn) :
    let e₀ := Dispatch.asking k endpoint terminal timeout
    let e := e₀.run ts
    let h := e.session.history
    let late : CliFault := .timeout timeout "the first snapshot" endpoint
    (e.program.prints = [] ∧ (∀ r, e.program.phase = .done r → r = .error late) ∨
      ∃ t snap, Brings h t snap ∧ e.program.phase = .done (.ok ()) ∧
        e.program.prints = [.mode (.ofState snap) (some snap.alpha)]) ∧
      (∀ o ∈ collect Event.handover? h,
        o.source = .greeting ∧ o.line = "!SYNC:" ++ Text.decimalString k.partition.toNat ++ "," ++
          Text.decimalString k.code.toNat ∨
        o.source = .heartbeat ∧ o.line = "!PING:" ++ k.pingMask) ∧
      (∀ t snap, Brings h t snap → t < timeout * 1000 →
        ∀ r, e.program.phase = .done r → r = .ok ()) ∧
      (e₀.Punctual ts → (∀ t snap, Brings h t snap → timeout * 1000 < t) →
        ∀ r, e.program.phase = .done r → r = .error late) ∧
      ∀ (us : List Dispatch.Turn) (rounds : List (List Dispatch.Turn)),
        ts = us ++ rounds.flatten → (∀ r ∈ rounds, Dispatch.IsRound r) → 24 ≤ rounds.length →
        (∃ t snap, Brings (e₀.run us).session.history t snap) ∨
          e₀.Punctual ts ∧ timeout * 1000 ≤ (e₀.run us).session.now →
        ∃ r, e.program.phase = .done r := by
  intro e₀ e h late
  have countdown := Dispatch.Asking.countdown k endpoint timeout (e₀.Punctual ts)
  have start := Dispatch.Asking.Sound.new k endpoint terminal timeout (e₀.Punctual ts)
  obtain ⟨n, -, t, reached, quiet, -, -, stands⟩ := countdown.run start id
  refine ⟨?_, ?_, ?_, ?_, ?_⟩
  · rcases stands.outcome with ⟨hnone, hdone⟩ | ⟨t, snap, hbrings, -, hprints, hphase⟩
    · exact .inl ⟨hnone, fun r hr => (hdone r hr).1⟩
    · exact .inr ⟨t, snap, hbrings, hphase, hprints⟩
  · intro o ho
    obtain ⟨q, ht, -⟩ := reached.tracked
    exact reached.settings ▸ ht.unasked quiet.queued ho
  · intro t snap hbrings hlt r hr
    rcases stands.outcome with ⟨-, hdone⟩ | ⟨-, -, -, -, -, hphase⟩
    · exact absurd ((hdone r hr).2 t snap hbrings) (Nat.not_le.mpr hlt)
    · exact (Phase.done.inj (hphase.symm.trans hr)).symm
  · intro hpunctual hnone r hr
    rcases stands.outcome with ⟨-, hdone⟩ | ⟨t, snap, hbrings, hintime, -, -⟩
    · exact (hdone r hr).1
    · exact absurd (hintime hpunctual) (Nat.not_le.mpr (hnone t snap hbrings))
  · rintro us rounds rfl hr hlen hripe
    obtain ⟨n, hn, t, sound⟩ := countdown.run start fun hb => (Dispatch.punctual_append.mp hb).1
    have hrest (hb : e₀.Punctual (us ++ rounds.flatten)) := (Dispatch.punctual_append.mp hb).2
    obtain ⟨m, hm, t', ended⟩ := countdown.rounds sound hripe hr hrest
    obtain rfl : m = 0 := by omega
    rw [← Dispatch.run_append] at ended
    exact ended.stands.done

namespace Dispatch

/-- The command asks a panel, for ten seconds. -/
abbrev polled (ts : List Turn) : Dispatch := (asking .default "panel" false 10).run ts

def waits : List Turn := [.act, .make, .act, .make, .act]

/-- A text with a mode of its own. -/
def readyLine : String := "\x7b\"ready\":true,\"last_alpha_message\":\"READY\"\x7d"

/-- A line comes that is no snapshot, and then one that is. -/
def hears : List Turn :=
  Session.Turn.connects.map .session ++
    [.session (.move (.received "READY")), .session (.move (.received readyLine))]

/-- Nothing comes, and the time is over. -/
def misses : List Turn := [.session (.late 10000)]

def goesOn : List (List Turn) := List.replicate 24 onward

theorem isRound_of_mem_goesOn : ∀ r ∈ goesOn, IsRound r := by
  intro r hr
  obtain rfl := List.eq_of_mem_replicate hr
  exact List.Subset.refl _

set_option maxRecDepth 10000 in
/-- A panel that says something in time, and one that does not. -/
theorem mode_heard_or_missed :
    (polled (waits ++ hears ++ goesOn.flatten)).program.phase = .done (.ok ()) ∧
      (polled (waits ++ misses ++ goesOn.flatten)).program.phase =
        .done (.error (.timeout 10 "the first snapshot" "panel")) := by
  constructor
  · obtain ⟨snap, hsnap⟩ : ∃ snap, Snapshot.ofLine? readyLine = some snap :=
      Option.isSome_iff_exists.mp (by decide +kernel)
    have hearly : Brings (polled (waits ++ hears)).session.history 0 snap :=
      ⟨1, readyLine, by decide +kernel, hsnap⟩
    have hbrings : Brings (polled (waits ++ hears ++ goesOn.flatten)).session.history 0 snap :=
      ⟨1, readyLine, by decide +kernel, hsnap⟩
    obtain ⟨-, -, hheard, -, hdone⟩ :=
      mode_from_snapshot .default "panel" false 10 (waits ++ hears ++ goesOn.flatten)
    obtain ⟨r, hr⟩ := hdone (waits ++ hears) goesOn rfl isRound_of_mem_goesOn (by decide)
      (.inl ⟨0, snap, hearly⟩)
    exact hr.trans (congrArg Phase.done (hheard 0 snap hbrings (by decide) r hr))
  · have hpunctual :
        (asking .default "panel" false 10).Punctual (waits ++ misses ++ goesOn.flatten) := by
      decide +kernel
    have hpassed : 10 * 1000 ≤ (polled (waits ++ misses)).session.now := by decide +kernel
    have hnone : snapshots (polled (waits ++ misses ++ goesOn.flatten)).session.history = [] := by
      decide +kernel
    obtain ⟨-, -, -, hlate, hdone⟩ :=
      mode_from_snapshot .default "panel" false 10 (waits ++ misses ++ goesOn.flatten)
    obtain ⟨r, hr⟩ := hdone (waits ++ misses) goesOn rfl isRound_of_mem_goesOn (by decide)
      (.inr ⟨hpunctual, hpassed⟩)
    refine hr.trans (congrArg Phase.done (hlate hpunctual (fun t snap hb => ?_) r hr))
    exact absurd (mem_snapshots.mpr ⟨t, hb⟩) (hnone ▸ List.not_mem_nil)

end Dispatch
end AlarmKeypad.Cli
