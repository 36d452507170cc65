import AlarmKeypad.Proofs.Session.Tracking

namespace AlarmKeypad.Session

variable {k : KeypadSettings} {h past : List Stamped} {e : Stamped} {o : Handover} {q q' : Track}

/-- A hand-over is of a line that may be handed over, to the last connection. -/
theorem Track.Next.hands (hn : q.Next k e q') (ho : e.event.handover? = some o) :
    o.connection = q.connection ∧ ∃ p, q.Hands k e.time o.source o.line p := by
  cases hn with
  | hand hh =>
    obtain rfl := Option.some.inj ho
    exact ⟨rfl, _, hh⟩
  | fail hh =>
    obtain rfl := Option.some.inj ho
    exact ⟨rfl, _, hh⟩
  | _ => exact nomatch ho

/-- Only the last connection ends. -/
theorem Track.Next.ends {c : Nat} (hn : q.Next k e q') (he : e.event.Ends c) :
    c = q.connection := by
  cases hn <;> grind [Event.Ends, Event.Breaks]

/-- A heartbeat of the connection's own timer: the n-th comes n periods after the first line, or
later. -/
def Handover.IsHeartbeat (k : KeypadSettings) (past : List Stamped) (t : Nat) (o : Handover) :
    Prop :=
  o.source = .heartbeat ∧ o.line = "!PING:" ++ k.pingMask ∧
    ∃ since, ⟨since, .handed o.connection .greeting k.syncLine⟩ ∈ past ∧
      since + (pingsOn o.connection past + 1) * k.heartbeat ≤ t

/-- The first of the lines that are in the queue. -/
def Handover.IsNextInLine (past : List Stamped) (o : Handover) : Prop :=
  ∃ id rest, o.source = .call id ∧
    collect Event.queued? past = collect Event.taken? past ++ ⟨id, o.line⟩ :: rest

/-- A hand-over as it should be, with what has happened before it and its time. -/
structure Handover.Orderly (k : KeypadSettings) (past : List Stamped) (t : Nat) (o : Handover) :
    Prop where
  latest : (collect Event.opened? past).getLast? = some o.connection
  isOpen : openIn past = [o.connection]
  connected : publishedIn past = .connected
  first : handoversOn o.connection past = [] →
    o.source = .greeting ∧ o.line = "!SYNC:" ++ Text.decimalString k.partition.toNat ++ "," ++
      Text.decimalString k.code.toNat
  later : handoversOn o.connection past ≠ [] → o.IsHeartbeat k past t ∨ o.IsNextInLine past
  unended : ∀ e ∈ past, ¬e.event.Ends o.connection

theorem syncLine_eq (k : KeypadSettings) : k.syncLine =
    "!SYNC:" ++ Text.decimalString k.partition.toNat ++ "," ++
      Text.decimalString k.code.toNat := by
  simp only [KeypadSettings.syncLine, ControlLine.sync, ControlLine.render, ControlVerb.name,
    ← String.append_assoc]
  rfl

theorem pingLine_eq (k : KeypadSettings) : k.pingLine = "!PING:" ++ k.pingMask := by
  simp only [KeypadSettings.pingLine, ControlLine.ping, ControlLine.render, ControlVerb.name]
  rfl

theorem render_send (command : String) :
    (ControlLine.send command).render = "!SEND:" ++ command := by
  simp only [ControlLine.send, ControlLine.render, ControlVerb.name]
  rfl

/-- At most one connection is open. -/
theorem Tracks.length_openIn_le (ht : Tracks k h q) : (openIn h).length ≤ 1 := by
  rw [ht.openIn_eq]
  split <;> simp

/-- Every hand-over is as it should be. -/
theorem Tracks.orderly (ht : Tracks k h q) (he : e :: past <:+ h)
    (ho : e.event.handover? = some o) : o.Orderly k past e.time := by
  obtain ⟨p, p', hp, hn⟩ := ht.at he
  obtain ⟨hc, p'', hh⟩ := hn.hands ho
  obtain ⟨c, source, line⟩ := o
  obtain rfl : c = p.connection := hc
  cases hh with
  | greeting n w b t =>
    exact {
      latest := hp.getLast?_opened rfl
      isOpen := hp.openIn_eq
      connected := hp.published
      first := fun _ => ⟨rfl, syncLine_eq k⟩
      later := fun hne => absurd (hp.silent rfl) hne
      unended := fun _ hx => hp.standing rfl hx }
  | heartbeat since pings n w b t hdue =>
    obtain ⟨hm, hpings⟩ := hp.greeted rfl
    have hping : Handover.IsHeartbeat k past e.time ⟨n, .heartbeat, k.pingLine⟩ :=
      ⟨rfl, pingLine_eq k, since, hm, hpings.symm ▸ hdue⟩
    exact {
      latest := hp.getLast?_opened rfl
      isOpen := hp.openIn_eq
      connected := hp.published
      first := fun hnil => absurd hnil (hp.handoversOn_ne_nil rfl)
      later := fun _ => .inl hping
      unended := fun _ hx => hp.standing rfl hx }
  | ticket since pings n x w b t =>
    exact {
      latest := hp.getLast?_opened rfl
      isOpen := hp.openIn_eq
      connected := hp.published
      first := fun hnil => absurd hnil (hp.handoversOn_ne_nil rfl)
      later := fun _ => .inr ⟨x.call, w, rfl, hp.queued_eq⟩
      unended := fun _ hx => hp.standing rfl hx }

/-- The first hand-over after the end of a connection greets a later one. -/
theorem Tracks.greeting_of_ended (ht : Tracks k h q) {x : Stamped} {between older : List Stamped}
    (he : e :: (between ++ x :: older) <:+ h) (ho : e.event.handover? = some o) {c : Nat}
    (hx : x.event.Ends c) (hb : collect Event.handover? between = []) :
    c < o.connection ∧ o.source = .greeting := by
  have hxm : x ∈ between ++ x :: older := List.mem_append_right _ List.mem_cons_self
  have hold : x :: older <:+ h :=
    ((List.suffix_append between _).trans (List.suffix_cons e _)).trans he
  have horderly := ht.orderly he ho
  obtain ⟨p, p', hp, hn⟩ := ht.at he
  obtain ⟨r, r', hr, hxn⟩ := ht.at hold
  have hc : c = r.connection := hxn.ends hx
  have hlt : c < o.connection := by
    refine Nat.lt_of_le_of_ne ?_ fun heq => horderly.unended x hxm (heq ▸ hx)
    exact (hn.hands ho).1 ▸ hp.le_connection hxm hx.connection
  refine ⟨hlt, (horderly.first ?_).1⟩
  -- an earlier line of this connection would have to come before the end of an earlier one
  refine List.eq_nil_iff_forall_not_mem.mpr fun a ha => ?_
  obtain ⟨hac, f, hf, hfa⟩ := mem_handoversOn.mp ha
  rcases List.mem_append.mp hf with hf | hf
  · exact List.not_mem_nil (hb ▸ mem_collect.mpr ⟨f, hf, hfa⟩)
  · have hle : a.connection ≤ c := by
      rcases List.mem_cons.mp hf with rfl | hf
      · have := hx.connection.symm.trans (Event.connection_of_handover hfa)
        exact Nat.le_of_eq (Option.some.inj this).symm
      · exact hc ▸ hr.le_connection hf (Event.connection_of_handover hfa)
    omega

/-- On every run at most one connection is open at any time; a line goes to the connection opened
last, while the keypad is published as connected; the first line of a connection is its greeting,
and every later one a heartbeat of its own timer or the next line of the queue; after a hand-over
that fails, as after any other end of a connection, nothing goes over until the next one is
greeted. -/
theorem wire_discipline (k : KeypadSettings) (ts : List Turn) :
    let s := (State.init k).run ts
    publishedIn s.history = s.published ∧
      (∀ past, past <:+ s.history → (openIn past).length ≤ 1) ∧
      (∀ e past o, e :: past <:+ s.history → e.event.handover? = some o →
        o.Orderly k past e.time) ∧
      ∀ e between x older o c, e :: (between ++ x :: older) <:+ s.history →
        e.event.handover? = some o → x.event.Ends c → collect Event.handover? between = [] →
        c < o.connection ∧ o.source = .greeting := by
  intro s
  obtain ⟨q, hq⟩ := State.run_tracks k ts
  refine ⟨(State.run_tracked k ts).publishedIn_eq, fun past hp => ?_,
    fun e past o he ho => hq.orderly he ho,
    fun e between x older o c he ho hx hb => hq.greeting_of_ended he ho hx hb⟩
  obtain ⟨p, hp⟩ := hq.of_suffix hp
  exact hp.length_openIn_le

set_option maxRecDepth 10000 in
/-- The first line after the device has hung up. -/
theorem orderly_reconnected :
    let h := ((State.init .default).run (Turn.begins ++ Turn.rests ++ Turn.connects)).history
    Handover.Orderly .default h.tail 1000 ⟨2, .greeting, "!SYNC:0,0"⟩ ∧ 1 < 2 := by
  intro h
  obtain ⟨-, -, horderly, hended⟩ :=
    wire_discipline .default (Turn.begins ++ Turn.rests ++ Turn.connects)
  have hlast := horderly ⟨1000, .handed 2 .greeting "!SYNC:0,0"⟩ h.tail _ (by decide +kernel) rfl
  have hafter := hended ⟨1000, .handed 2 .greeting "!SYNC:0,0"⟩ (h.tail.take 6) ⟨0, .dropped 1⟩
    (h.drop 8) _ 1 (by decide +kernel) rfl (.inr (.inr (.inr rfl))) (by decide +kernel)
  exact ⟨hlast, hafter.1⟩

end AlarmKeypad.Session
