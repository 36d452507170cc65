import AlarmKeypad.Scenario.Offline
import AlarmKeypad.Scenario.Outage

namespace AlarmKeypad

namespace Session

/-- Whether the session has no connection and has not crashed. -/
def Phase.IsApart : Phase → Prop
  | .idle | .starting | .dialing | .opening | .leaving | .parted | .resting _ | .finished => True
  | _ => False

/-- What subscribers hear of a session that has never had a connection. -/
def Notice.IsApart : Notice → Prop
  | .connection s => s = .connecting ∨ s = .disconnected
  | .mode _ => False

namespace State

/-- No connection has ever been open. -/
structure Apart (s : State) : Prop where
  phase : s.phase.IsApart
  published : s.published = .connecting ∨ s.published = .disconnected
  mode : s.mode = .unknown
  snapshot : s.snapshot = none
  notices : ∀ n ∈ notices s.history, n.2.IsApart

variable {s s' : State} {m : Move}

theorem apart_init (k : KeypadSettings) : (init k).Apart :=
  ⟨trivial, .inr rfl, rfl, rfl, nofun⟩

theorem Apart.record (h : s.Apart) {e : Event} (he : ∀ n ∈ Notice.ofEvent? e, n.IsApart) :
    (s.record e).Apart := by
  refine { h with notices := fun n hn => ?_ }
  cases ho : Notice.ofEvent? e with
  | none => exact h.notices n (by simpa [Session.notices, State.record, ho] using hn)
  | some x =>
    have hcons : n = (s.now, x) ∨ n ∈ Session.notices s.history := by
      simpa [Session.notices, State.record, ho] using hn
    rcases hcons with rfl | hn
    · exact he x ho
    · exact h.notices n hn

/-- An event that subscribers do not hear of. -/
theorem Apart.silent (h : s.Apart) {e : Event} (he : Notice.ofEvent? e = none) :
    (s.record e).Apart :=
  h.record fun _ hn => nomatch he.symm.trans hn

theorem Apart.goTo (h : s.Apart) {p : Phase} (hp : p.IsApart) : (s.goTo p).Apart :=
  { h with phase := hp }

theorem Apart.publish (h : s.Apart) {c : ConnectionState}
    (hc : c = .connecting ∨ c = .disconnected) : (s.publish c).Apart := by
  unfold State.publish
  split
  · exact h
  · have hapart : { s with published := c }.Apart := { h with published := hc }
    refine hapart.record ?_
    rintro n ⟨⟩
    exact hc

theorem Apart.act (h : s.Apart) (ha : s.act? = some s') : s'.Apart := by
  have hapart := h.phase
  unfold act? at ha
  cases hp : s.phase with
  | starting =>
    simp only [hp, Option.some.injEq] at ha
    exact ha ▸ (h.publish (.inl rfl)).goTo trivial
  | dialing =>
    have hattempts : { s with attempts := s.attempts + 1 }.Apart := { h with }
    simp only [hp] at ha
    split at ha <;> obtain rfl := Option.some.inj ha
    · exact h.goTo trivial
    · exact (hattempts.silent rfl).goTo trivial
  | opening =>
    simp only [hp, Option.ite_none_right_eq_some, Option.some.injEq] at ha
    exact ha.2 ▸ h.goTo trivial
  | leaving =>
    simp only [hp, Option.some.injEq] at ha
    exact ha ▸ (h.publish (.inr rfl)).goTo trivial
  | parted =>
    simp only [hp, Option.some.injEq] at ha
    refine ha ▸ h.goTo ?_
    split <;> trivial
  | resting d =>
    simp only [hp] at ha
    split at ha
    · exact Option.some.inj ha ▸ h.goTo trivial
    · obtain ⟨-, hs⟩ := Option.ite_none_right_eq_some.mp ha
      exact Option.some.inj hs ▸ h.goTo trivial
  | idle | finished => simp [hp] at ha
  | _ => simp [hp, Phase.IsApart] at hapart

theorem Apart.returned (h : s.Apart) (id : Nat) (r : Reply) : (s.returned id r).Apart := by
  have hcalls : { s with calls := s.calls.filter (·.1 ≠ id) }.Apart := { h with }
  exact hcalls.silent rfl

theorem Apart.waiting (h : s.Apart) (id : Nat) (c : Call) : (s.waiting id c).Apart :=
  { h with }

theorem Apart.offer (h : s.Apart) (id : Nat) (line : String) : (s.offer id line).Apart := by
  unfold State.offer
  split
  · exact h.waiting id _
  · exact h.returned id _

theorem Apart.call (h : s.Apart) (r : Request) : (s.call r).Apart := by
  have hcount : { s with callCount := s.callCount + 1 }.Apart := { h with }
  have hbegun := hcount.silent (e := .called s.callCount r) rfl
  cases r with
  | connect =>
    unfold State.call
    dsimp only
    split
    · exact hbegun.returned ..
    · exact hbegun.waiting ..
  | shutdown =>
    have htold : { { s with callCount := s.callCount + 1 }.record (.called s.callCount .shutdown) with
      cancelled := true }.Apart := { hbegun with }
    exact htold.waiting ..
  | command token =>
    unfold State.call
    dsimp only
    split
    · exact hbegun.returned ..
    · exact hbegun.offer ..
  | sync => exact hbegun.offer ..

theorem Apart.resume (h : s.Apart) {id : Nat} (hr : s.resume? id = some s') : s'.Apart := by
  unfold resume? at hr
  split at hr
  · exact nomatch hr
  · split at hr
    · exact Option.some.inj hr ▸ h.returned ..
    · split at hr <;> obtain rfl := Option.some.inj hr
      · have hstarted : { s with phase := .starting, joinable := true }.Apart :=
          { h with phase := trivial }
        exact (hstarted.silent rfl).returned ..
      · exact h.returned ..
  · split at hr <;> obtain rfl := Option.some.inj hr
    · exact Apart.waiting (s := { s with joinable := false }) { h with } ..
    · exact h.returned ..
  · obtain ⟨-, hs⟩ := Option.ite_none_right_eq_some.mp hr
    exact Option.some.inj hs ▸ h.returned ..
  · split at hr
    · exact Option.some.inj hr ▸ h.returned ..
    · obtain ⟨-, hs⟩ := Option.ite_none_right_eq_some.mp hr
      obtain rfl := Option.some.inj hs
      have hqueued (t : Ticket) : { s with queue := s.queue ++ [t] }.Apart := { h with }
      exact ((hqueued _).silent rfl).returned ..

theorem Apart.not_listens (h : s.Apart) : ¬s.Listens := by
  rintro ⟨⟨d, hp⟩, -⟩
  have hapart := h.phase
  simp [hp, Phase.IsApart] at hapart

theorem Apart.pending (h : s.Apart) : s.pending? = none := by
  have hapart := h.phase
  cases hp : s.phase <;> simp_all [pending?, Phase.IsApart]

/-- Only a connection that opens ends this. -/
theorem Apart.move (h : s.Apart) (hm : m ≠ .opened) (hs : s.move? m = some s') : s'.Apart := by
  cases m with
  | elapse ms =>
    obtain ⟨-, hs⟩ := Option.ite_none_right_eq_some.mp hs
    exact Option.some.inj hs ▸ { h with }
  | call r => exact Option.some.inj hs ▸ h.call r
  | resume id => exact h.resume hs
  | act => exact h.act hs
  | opened => exact absurd rfl hm
  | refused =>
    obtain ⟨-, hs⟩ := Option.ite_none_right_eq_some.mp hs
    exact Option.some.inj hs ▸ (h.silent rfl).goTo trivial
  | handed | handFailed =>
    obtain ⟨o, ho, -⟩ := Option.map_eq_some_iff.mp hs
    exact nomatch h.pending.symm.trans ho
  | received line | faulted | hungUp =>
    exact absurd (Option.ite_none_right_eq_some.mp hs).1 h.not_listens
  | closed =>
    have hapart := h.phase
    change s.closed? = some s' at hs
    unfold closed? at hs
    split at hs
    · rename_i hp
      simp [hp, Phase.IsApart] at hapart
    · exact nomatch hs

end State
end Session

namespace Scenario

open Cli Session

namespace Outage

variable {s : State}

theorem apart_act (h : s.Apart) (fuel : Nat) : (act fuel s).Apart := by
  induction fuel generalizing s with
  | zero => exact h
  | succ fuel ih =>
    unfold act
    split
    · rename_i hs
      exact ih (h.act hs)
    · exact h

theorem apart_settleWithin (h : s.Apart) (fuel : Nat) : (settleWithin fuel s).Apart := by
  induction fuel generalizing s with
  | zero => exact h
  | succ fuel ih =>
    have hact := apart_act h actLimit
    unfold settleWithin
    dsimp only
    split
    · rename_i hs
      exact ih (hact.move (m := .refused) nofun hs)
    · exact hact

theorem apart_elapse (h : s.Apart) (ms : Nat) : (elapse s ms).Apart := by
  unfold elapse
  cases hs : s.elapse? ms with
  | none => exact h
  | some s' => exact h.move (m := .elapse ms) nofun hs

theorem apart_jump (h : s.Apart) (ms : Nat) : (jump s ms).Apart := by
  unfold jump
  dsimp only
  split
  · split
    · exact apart_settleWithin (apart_elapse (apart_act (apart_elapse h _) _) _) _
    · exact apart_elapse h ms
  · exact apart_elapse h ms

theorem apart_jumps (h : s.Apart) (ms times : Nat) : (jumps ms times s).Apart := by
  induction times generalizing s with
  | zero => exact h
  | succ times ih => exact ih (apart_jump h ms)

theorem apart_await (h : s.Apart) (id fuel : Nat) : (await id fuel s).Apart := by
  induction fuel generalizing s with
  | zero => exact h
  | succ fuel ih =>
    unfold await
    split
    · rename_i hs
      exact ih (apart_settleWithin (h.resume hs) _)
    · exact h

theorem apart_perform (h : s.Apart) (step : Step) : (perform s step).1.Apart := by
  cases step with
  | request r => exact apart_await (apart_settleWithin (h.call r) _) _ _
  | jumps ms times => exact apart_jumps h ms times
  | accept | send | apart => exact h

/-- What is seen of a keypad that has never had a connection. -/
structure Report.IsApart (r : Report) : Prop where
  state : r.state = .connecting ∨ r.state = .disconnected
  mode : r.mode = .unknown
  alpha : r.alpha = none
  notices : ∀ n ∈ r.notices, n.IsApart

theorem isApart_report (h : s.Apart) (step : Step) : (report s step).2.IsApart := by
  have hs' := apart_perform h step
  refine ⟨hs'.published, hs'.mode, congrArg (Option.map Snapshot.alpha) hs'.snapshot, ?_⟩
  intro n hn
  obtain ⟨⟨time, x⟩, hx, rfl⟩ := List.mem_map.mp hn
  have hnews : (time, x) ∈ Session.notices (perform s step).1.history :=
    ((List.take_sublist _ _).filterMap _).subset (List.mem_reverse.mp hx)
  exact hs'.notices _ hnews

/-- Without a way to its device a keypad is never connected, knows no mode and takes in no
snapshot, whatever is asked of it and however long it waits. -/
theorem play_isApart (k : KeypadSettings) (steps : List Step) : ∀ r ∈ play k steps, r.IsApart := by
  have hreports {s : State} (h : s.Apart) : ∀ r ∈ reports s steps, r.IsApart := by
    induction steps generalizing s with
    | nil => exact nofun
    | cons step steps ih =>
      exact List.forall_mem_cons.mpr ⟨isApart_report h step, ih (apart_perform h step)⟩
  exact hreports (State.apart_init k)

end Outage

namespace World

/-- The device refuses, and no connection has ever been open. -/
structure Apart (w : World) : Prop where
  session : w.session.Apart
  device : w.device.answer = .refuse
  attempt : ∀ a ∈ w.attempt, a.answer = .refuse

variable {w w' : World} {m : Move}

theorem Apart.see (h : w.Apart) (time : Nat) (s : Sight) : (w.see time s).Apart := { h with }

theorem Apart.sees (h : w.Apart) (time c : Nat) (ls : List String) :
    (ls.foldl (fun w l => w.see time (.line c l)) w).Apart := by
  induction ls generalizing w with
  | nil => exact h
  | cons l ls ih => exact ih (h.see _ _)

theorem Apart.observe (h : w.Apart) (e : Stamped) : (w.observe e).Apart := by
  unfold World.observe
  split
  · have hattempt : World.Apart { w with
        attempt := some ⟨e.time + w.device.answerDelay, w.device.answer, w.device.accept⟩ } := by
      refine { h with attempt := ?_ }
      rintro a ⟨⟩
      exact h.device
    exact hattempt.see ..
  · exact ⟨h.session, h.device, nofun⟩
  · split
    · exact h.sees ..
    · exact h.see ..
  · exact h.see ..
  · split
    · exact h
    · exact h.see ..
  · have hlink : World.Apart { w with link := none } := { h with }
    exact hlink.see ..
  · exact h

theorem Apart.move (h : w.Apart) (hm : m ≠ .opened) (hw : w.move? m = some w') : w'.Apart := by
  obtain ⟨s, hs, rfl⟩ := Option.map_eq_some_iff.mp hw
  have hsession := h.session.move hm hs
  generalize s.history.take (s.history.length - w.session.history.length) = news
  induction news with
  | nil => exact { h with session := hsession }
  | cons e news ih => exact ih.observe e

theorem Apart.moves (h : w.Apart) {ms : List Move} (hms : .opened ∉ ms) :
    (ms.foldl (fun w m => (w.move? m).getD w) w).Apart := by
  induction ms generalizing w with
  | nil => exact h
  | cons m ms ih =>
    rw [List.mem_cons, not_or] at hms
    obtain ⟨hm, hms⟩ := hms
    refine ih ?_ hms
    change ((w.move? m).getD w).Apart
    cases hw : w.move? m with
    | none => exact h
    | some w' => exact h.move (Ne.symm hm) hw

theorem Apart.step (h : w.Apart) (hw : w.step? = some w') : w'.Apart := by
  have hread : w.read? = none := if_neg h.session.not_listens
  unfold step? at hw
  rw [hread] at hw
  dsimp only at hw
  split at hw
  · rename_i hact
    exact Option.some.inj hw ▸ h.move (m := .act) nofun hact
  · unfold respond? at hw
    split at hw
    · obtain ⟨a, ha, hw⟩ := Option.bind_eq_some_iff.mp hw
      rw [h.attempt a ha] at hw
      obtain ⟨-, hw⟩ := Option.ite_none_right_eq_some.mp hw
      exact h.move (m := .refused) nofun hw
    · obtain ⟨-, hw⟩ := Option.ite_none_left_eq_some.mp hw
      exact h.move (m := .closed) nofun hw
    · refine h.move ?_ hw
      split <;> nofun

theorem Apart.settle (h : w.Apart) : w.settle.Apart := by
  unfold World.settle
  generalize settleLimit = fuel
  induction fuel generalizing w with
  | zero => exact h
  | succ fuel ih =>
    unfold settleWithin
    split
    · rename_i hw
      exact ih (h.step hw)
    · exact h

theorem Apart.elapseTo (h : w.Apart) (time : Nat) : (w.elapseTo time).Apart := by
  unfold World.elapseTo
  cases hw : w.move? (.elapse (time - w.now)) with
  | none => exact h
  | some w' => exact h.move (m := .elapse (time - w.now)) nofun hw

end World

/-- A command that needs the device, and has not come to an end without a failure. -/
structure Failing (p : Program) : Prop where
  task : (∃ n, p.task = .mode n) ∨ ∃ command raw n, p.task = .send command raw n
  phase : match p.phase with
    | .begun | .connecting _ | .waiting _ | .leaving _ (.failed _) | .done (.error _) => True
    | _ => False

namespace Failing

variable {p p' : Program} {s : State} {ms : List Move}

theorem await (h : Failing p) {id : Nat} {next : Reply → Program} (hnext : ∀ r, Failing (next r))
    (ha : p.await s id next = some (p', ms)) : Failing p' ∧ .opened ∉ ms := by
  unfold Program.await at ha
  split at ha
  · obtain ⟨rfl, rfl⟩ := Prod.mk.inj (Option.some.inj ha)
    exact ⟨hnext _, nofun⟩
  · obtain ⟨-, ha⟩ := Option.ite_none_right_eq_some.mp ha
    obtain ⟨rfl, rfl⟩ := Prod.mk.inj (Option.some.inj ha)
    exact ⟨h, by simp⟩

theorem finish (h : Failing p) (f : CliFault) : Failing (p.finish (.error f)) := ⟨h.task, trivial⟩

theorem leave (h : Failing p) (f : CliFault) (ha : p.leave s (.failed f) = some (p', ms)) :
    Failing p' ∧ .opened ∉ ms := by
  obtain ⟨rfl, rfl⟩ := Prod.mk.inj (Option.some.inj ha)
  exact ⟨⟨h.task, trivial⟩, by simp⟩

theorem start (h : Failing p) (ha : p.start s = some (p', ms)) : Failing p' ∧ .opened ∉ ms := by
  have htask := h.task
  unfold Program.start at ha
  split at ha
  · obtain ⟨rfl, rfl⟩ := Prod.mk.inj (Option.some.inj ha)
    exact ⟨h.finish _, nofun⟩
  · simp_all
  · simp_all
  · simp_all
  · obtain ⟨rfl, rfl⟩ := Prod.mk.inj (Option.some.inj ha)
    exact ⟨⟨htask, trivial⟩, by simp⟩

theorem started (h : Failing p) (s : State) : Failing (p.started s) := by
  unfold Program.started
  rcases h.task with ⟨n, ht⟩ | ⟨command, raw, n, ht⟩ <;> rw [ht] <;> exact ⟨h.task, trivial⟩

theorem look (h : Failing p) (hs : s.Apart) {deadline : Nat}
    (ha : p.look s deadline = some (p', ms)) : Failing p' ∧ .opened ∉ ms := by
  have hconnected : s.published ≠ .connected := by
    rcases hs.published with hp | hp <;> simp [hp]
  unfold Program.look at ha
  rcases h.task with ⟨n, ht⟩ | ⟨command, raw, n, ht⟩
  · simp only [ht, hs.snapshot] at ha
    exact h.leave _ (Option.ite_none_right_eq_some.mp ha).2
  · simp only [ht, hconnected, if_false] at ha
    exact h.leave _ (Option.ite_none_right_eq_some.mp ha).2

theorem act (h : Failing p) (hs : s.Apart) (ha : p.act? s = some (p', ms)) :
    Failing p' ∧ .opened ∉ ms := by
  have hphase := h.phase
  unfold Program.act? at ha
  cases hp : p.phase with
  | begun =>
    simp only [hp] at ha
    exact h.start ha
  | connecting id =>
    simp only [hp] at ha
    refine h.await (fun r => ?_) ha
    cases r with
    | ok => exact h.started s
    | failed f => exact h.finish _
  | waiting deadline =>
    simp only [hp] at ha
    exact h.look hs ha
  | leaving id o =>
    simp only [hp] at ha hphase
    cases o with
    | failed f => exact h.await (fun _ => h.finish f) ha
    | _ => exact hphase.elim
  | done r => simp [hp] at ha
  | _ => simp [hp] at hphase

theorem code_ne_zero (h : Failing p) {q : Printer} {now : Stamp} {e : Exit}
    (he : p.exit? q now = some e) : e.code ≠ 0 := by
  have hphase := h.phase
  unfold Program.exit? at he
  split at he
  · rename_i hp
    simp [hp] at hphase
  · obtain rfl := Option.some.inj he
    rename_i f hp
    change f.exitCode ≠ 0
    cases f <;> simp [CliFault.exitCode]
  · exact nomatch he

end Failing

namespace Console

/-- A command that needs the device, at work without one. -/
structure Apart (c : Console) : Prop where
  world : c.world.Apart
  program : Failing c.program

variable {c c' : Console}

theorem Apart.withWorld (h : c.Apart) {w : World} (hw : w.Apart) : (c.withWorld w).Apart :=
  ⟨hw, h.program⟩

theorem Apart.act (h : c.Apart) (hc : c.act? = some c') : c'.Apart := by
  obtain ⟨⟨p, ms⟩, ha, rfl⟩ := Option.map_eq_some_iff.mp hc
  obtain ⟨hp, hms⟩ := h.program.act h.world.session ha
  exact ⟨h.world.moves hms, hp⟩

theorem Apart.settle (h : c.Apart) : c.settle.Apart := by
  have hact (fuel : Nat) {c : Console} (h : c.Apart) : (actWithin fuel c).Apart := by
    induction fuel generalizing c with
    | zero => exact h
    | succ fuel ih =>
      unfold actWithin
      split
      · rename_i hc
        exact ih (h.act hc)
      · exact h
  unfold Console.settle
  generalize turnLimit = fuel
  induction fuel generalizing c with
  | zero => exact h
  | succ fuel ih =>
    have hsettled := (hact World.settleLimit h).withWorld (hact World.settleLimit h).world.settle
    unfold settleWithin
    dsimp only
    split
    · exact ih hsettled
    · exact hsettled

theorem Apart.passTo (h : c.Apart) (time : Nat) (inclusive : Bool) :
    (c.passTo time inclusive).Apart := by
  unfold Console.passTo
  generalize time - c.now + 1 = fuel
  induction fuel generalizing c with
  | zero => exact h
  | succ fuel ih =>
    have helapsed (time : Nat) := h.withWorld (h.world.elapseTo time)
    unfold passWithin
    split
    · exact h
    · split
      · split
        · exact ih (helapsed _).settle
        · exact helapsed time
      · exact helapsed time

end Console

/-- The command of an errand has not begun. -/
theorem phase_of_read {args : List String} {s : Surroundings} {p : Program} {printer : Printer}
    {c : Connection} (hp : (Errand.read args s).errand = .keypad p printer c) :
    p.phase = .begun := by
  have htask {config : Config} {i : Invocation}
      (ht : Errand.ofExcept (Errand.ofTask s config i) = .keypad p printer c) :
      p.phase = .begun := by
    cases ho : Errand.ofTask s config i with
    | error f => simp [ho, Errand.ofExcept] at ht
    | ok errand =>
      simp only [ho, Errand.ofExcept] at ht
      subst ht
      unfold Errand.ofTask at ho
      cases hr : i.options.resolve config s.configPath with
      | error f => simp [hr, bind, Except.bind] at ho
      | ok c' =>
        cases ha : Errand.addressOf c'.endpoint with
        | error f => simp [hr, ha, bind, Except.bind] at ho
        | ok address =>
          simp only [hr, ha, bind, Except.bind, pure, Except.pure, Except.ok.injEq,
            Errand.keypad.injEq] at ho
          exact ho.1 ▸ rfl
  unfold Errand.read at hp
  split at hp
  · unfold Errand.ofInvocation at hp
    dsimp only at hp
    split at hp
    · split at hp <;> simp at hp
    · simp at hp
    · exact htask hp
  · simp at hp

/-- Without its device the program does not find a mode and does not send: if it ends, it fails. -/
theorem code_of_offlineExit {args : List String} {s : Surroundings} {now : Stamp} {p : Program}
    {printer : Printer} {c : Connection} {e : Exit}
    (hp : (Errand.read args s).errand = .keypad p printer c)
    (ht : (∃ n, p.task = .mode n) ∨ ∃ command raw n, p.task = .send command raw n)
    (he : offlineExit? args s now = some e) : e.code ≠ 0 := by
  have hbegun := phase_of_read hp
  have hnew : (Console.new p c.settings offlineDevice).Apart :=
    ⟨⟨State.apart_init c.settings, rfl, nofun⟩, ht, by simp only [Console.new, hbegun]⟩
  unfold offlineExit? exit? at he
  simp only [hp] at he
  obtain ⟨e', he', rfl⟩ := Option.map_eq_some_iff.mp he
  have hplayed := hnew.settle.passTo (taskLimit p.task) false
  have hcode : e'.code ≠ 0 := hplayed.program.code_ne_zero he'
  exact hcode

end Scenario
end AlarmKeypad
