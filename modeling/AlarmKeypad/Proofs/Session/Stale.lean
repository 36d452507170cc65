import AlarmKeypad.Proofs.Session.Queue

namespace AlarmKeypad.Session

variable {k : KeypadSettings} {h : List Stamped} {q : Track} {c : Nat}

theorem exists_queued_of_mem_queuedFor {x : Ticket} (hx : x ∈ queuedFor c h) :
    ∃ t past, ⟨t, .queued x⟩ :: past <:+ h ∧ Has past (.drained c) ∧
      ¬Has past (.opened (c + 1)) := by
  induction h with
  | nil => exact absurd hx List.not_mem_nil
  | cons e h ih =>
    rcases List.mem_append.mp hx with hx | hx
    · obtain ⟨t, past, hs, hd⟩ := ih hx
      exact ⟨t, past, hs.trans (List.suffix_cons e h), hd⟩
    · split at hx
      · rename_i hd
        obtain ⟨t, e⟩ := e
        cases e with
        | queued y =>
          obtain rfl := List.mem_singleton.mp hx
          exact ⟨t, h, List.suffix_refl _, hd⟩
        | _ => exact absurd hx List.not_mem_nil
      · exact absurd hx List.not_mem_nil

/-- A line that is handed over was queued while its connection was the last, and drained. -/
theorem Tracks.exists_queued_of_handover (ht : Tracks k h q) {e : Stamped} (he : e ∈ h)
    {o : Handover} (ho : e.event.handover? = some o) {id : Nat} (hs : o.source = .call id) :
    ∃ t past, ⟨t, .queued ⟨id, o.line⟩⟩ :: past <:+ h ∧ Has past (.drained o.connection) ∧
      ¬Has past (.opened (o.connection + 1)) := by
  have hsent : ⟨id, o.line⟩ ∈ ticketsOn o.connection h :=
    List.mem_filterMap.mpr ⟨o, mem_handoversOn.mpr ⟨rfl, e, he, ho⟩, by
      simp [Handover.ticket?, hs]⟩
  exact exists_queued_of_mem_queuedFor ((ht.windows.all _).subset hsent)

/-- A line is handed to a later connection than the last one at the time of its call exactly if it
came into the queue after the next connection had been drained. -/
theorem handed_later_iff (k : KeypadSettings) (ts : List Turn) {id t t' c : Nat} {r : Request}
    {line : String} {p q : List Stamped} {e : Stamped} {o : Handover}
    (hcall : ⟨t, .called id r⟩ :: p <:+ ((State.init k).run ts).history)
    (hlast : (collect Event.opened? p).getLast? = some c)
    (hqueue : ⟨t', .queued ⟨id, line⟩⟩ :: q <:+ ((State.init k).run ts).history)
    (he : e ∈ ((State.init k).run ts).history) (ho : e.event.handover? = some o)
    (hs : o.source = .call id) :
    publishedIn p = .connected ∧ r.line? k = some o.line ∧ o.line = line ∧ c ≤ o.connection ∧
      (c < o.connection ↔ Has q (.drained (c + 1))) := by
  obtain ⟨last, ht⟩ := State.run_tracks k ts
  have a := State.run_accounts k ts
  obtain ⟨tq, q', hq', hdrained, hopened⟩ := ht.exists_queued_of_handover he ho hs
  obtain ⟨hx, rfl⟩ := a.queued_unique hq' hqueue rfl
  obtain ⟨tc, r', p', hcall', hline, hpub⟩ := a.checked tq _ q' hq'
  have hpast : q' <:+ ((State.init k).run ts).history := (List.suffix_cons _ q').trans hq'
  obtain ⟨rfl, rfl⟩ := a.called_unique (hcall'.trans hpast) hcall
  -- the last connections when the call was made and when its line was queued
  obtain ⟨u, hu⟩ := ht.of_suffix hpast
  have hbefore : p' <:+ q' := (List.suffix_cons _ p').trans hcall'
  obtain ⟨v, hv⟩ := hu.of_suffix hbefore
  obtain ⟨hpos, hdrained⟩ := hu.has_drained_iff.mp hdrained
  have hc : c = v.connection := hv.eq_of_getLast?_opened hlast
  have hle : v.connection ≤ u.connection := by
    have hlen := (collect_isPrefix (f := Event.opened?) hbefore).length_le
    simpa only [hv.opened, hu.opened, List.length_range'] using hlen
  have hlatest : ¬o.connection + 1 ≤ u.connection := fun hh =>
    hopened (hu.has_opened_iff.mpr ⟨Nat.le_add_left 1 _, hh⟩)
  refine ⟨hpub, hline, (Ticket.mk.inj hx).2, by omega, ?_⟩
  rw [hu.has_drained_iff]
  grind

/-- So many lines that the next one has to wait for room in the queue. -/
def crowded : List Turn :=
  Turn.begins ++ (List.range queueSize).flatMap fun i =>
    [.move (.call (.command "<AWAY>")), .move (.resume (i + 1))]

/-- A command waits for room in the queue while the device hangs up and is connected again. -/
def overtaken : List Turn :=
  crowded ++ [.move (.call (.command "<DISARM>")), .move (.resume (queueSize + 1))] ++
    Turn.rests ++ Turn.connects

/-- The command enters the queue and is handed over. -/
def late : List Turn := overtaken ++ [.move (.resume (queueSize + 1)), .move .act, .move .handed]

/-- Every line goes to the connection that was the last at the time of its call. -/
def NeverLate (h : List Stamped) : Prop :=
  ∀ id t r p c e o, ⟨t, .called id r⟩ :: p <:+ h → publishedIn p = .connected →
    (collect Event.opened? p).getLast? = some c → e ∈ h → e.event.handover? = some o →
    o.source = .call id → o.connection ≤ c

set_option maxRecDepth 10000 in
theorem late_called : ⟨0, .called 65 (.command "<DISARM>")⟩ ::
    ((State.init .default).run crowded).history <:+ ((State.init .default).run late).history := by
  decide +kernel

set_option maxRecDepth 10000 in
theorem late_queued : ⟨1000, .queued ⟨65, "!SEND:<DISARM>"⟩⟩ ::
    ((State.init .default).run overtaken).history <:+
      ((State.init .default).run late).history := by
  decide +kernel

set_option maxRecDepth 10000 in
theorem late_handed : ⟨1000, .handed 2 (.call 65) "!SEND:<DISARM>"⟩ ∈
    ((State.init .default).run late).history := by
  decide +kernel

set_option maxRecDepth 10000 in
theorem handed_later_disarm :
    publishedIn ((State.init .default).run crowded).history = .connected ∧ 1 < 2 ∧
      Has ((State.init .default).run overtaken).history (.drained 2) := by
  obtain ⟨hpub, -, -, -, hiff⟩ := handed_later_iff .default late (c := 1)
    (o := ⟨2, .call 65, "!SEND:<DISARM>"⟩) late_called (by decide +kernel) late_queued late_handed
    rfl rfl
  exact ⟨hpub, by decide, hiff.mp (by decide)⟩

set_option maxRecDepth 10000 in
/-- A command that was meant for the first connection goes over the second. -/
theorem not_neverLate : ¬NeverLate ((State.init .default).run late).history := by
  intro hn
  have hle : 2 ≤ 1 := hn 65 0 _ _ 1 _ ⟨2, .call 65, "!SEND:<DISARM>"⟩ late_called
    (by decide +kernel) (by decide +kernel) late_handed rfl rfl
  omega

end AlarmKeypad.Session
