import AlarmKeypad.Proofs.Session.Protocol

namespace AlarmKeypad.Session.Tracks

variable {k : KeypadSettings} {h : List Stamped} {q : Track}

theorem published (ht : Tracks k h q) : publishedIn h = q.stage.published := by
  induction ht with
  | start => rfl
  | next _ hn ih =>
    cases hn with
    | dial | giveUp | connect | abandon | stop | part | leave =>
      exact publishedIn_cons_published _ _ _
    | hand hh => cases hh <;> exact (publishedIn_cons rfl).trans ih
    | fail hh => cases hh <;> exact (publishedIn_cons rfl).trans ih
    | _ => exact (publishedIn_cons rfl).trans ih

theorem opened (ht : Tracks k h q) :
    collect Event.opened? h = List.range' 1 q.connection := by
  induction ht with
  | start => rfl
  | next _ hn ih =>
    cases hn with
    | opens n w b t =>
      rw [List.range'_1_concat, Nat.add_comm 1 n]
      exact congrArg (· ++ [n + 1]) ih
    | hand hh => cases hh <;> exact (List.append_nil _).trans ih
    | fail hh => cases hh <;> exact (List.append_nil _).trans ih
    | _ => exact (List.append_nil _).trans ih

theorem openIn_eq (ht : Tracks k h q) :
    openIn h = if q.stage.isOpen then [q.connection] else [] := by
  induction ht with
  | start => rfl
  | next _ hn ih => cases hn <;> grind [openIn, Stage.isOpen, Track.Hands]

theorem connection_pos (ht : Tracks k h q) (hq : q.stage.isOpen = true) : 1 ≤ q.connection := by
  have hmem : q.connection ∈ openIn h := by
    rw [ht.openIn_eq, if_pos hq]
    exact List.mem_singleton_self _
  have hpos := mem_opened_of_mem_openIn hmem
  rw [ht.opened, List.mem_range'_1] at hpos
  exact hpos.1

/-- The connection that is open is the one opened last. -/
theorem getLast?_opened (ht : Tracks k h q) (hq : q.stage.isOpen = true) :
    (collect Event.opened? h).getLast? = some q.connection := by
  have hpos := ht.connection_pos hq
  rw [ht.opened, List.getLast?_range', if_neg (by omega)]
  congr 1
  omega

theorem eq_of_getLast?_opened (ht : Tracks k h q) {c : Nat}
    (hc : (collect Event.opened? h).getLast? = some c) : c = q.connection := by
  rw [ht.opened, List.getLast?_range'] at hc
  split at hc
  · exact nomatch hc
  · have := Option.some.inj hc
    omega

/-- Connections count up. -/
theorem le_connection (ht : Tracks k h q) {e : Stamped} (he : e ∈ h) {c : Nat}
    (hc : e.event.connection? = some c) : c ≤ q.connection := by
  induction ht with
  | start => exact absurd he List.not_mem_nil
  | next _ hn ih => cases hn <;> grind [Event.connection?, Track.Hands]

/-- Lines leave the queue in the order in which they came. -/
theorem queued_eq (ht : Tracks k h q) :
    collect Event.queued? h = collect Event.taken? h ++ q.waiting := by
  induction ht with
  | start => rfl
  | next _ hn ih =>
    cases hn with
    | hand hh => cases hh <;> simpa [Event.queued?, Event.taken?] using ih
    | fail hh => cases hh <;> simpa [Event.queued?, Event.taken?] using ih
    | queued g n w b t x =>
      exact (congrArg (· ++ [x]) ih).trans (by simp [Event.taken?])
    | discard n x w b t => simpa [Event.queued?, Event.taken?] using ih
    | _ => simpa [Event.queued?, Event.taken?] using ih

/-- Nothing has been handed to a connection that has not been opened. -/
theorem handoversOn_of_lt (ht : Tracks k h q) {c : Nat} (hc : q.connection < c) :
    handoversOn c h = [] := by
  refine List.eq_nil_iff_forall_not_mem.mpr fun o ho => ?_
  obtain ⟨e, he, heo⟩ := mem_collect.mp ho
  obtain ⟨heo, hoc⟩ := Option.filter_eq_some_iff.mp heo
  have hle : o.connection ≤ q.connection :=
    ht.le_connection he (Event.connection_of_handover heo)
  simp only [decide_eq_true_eq] at hoc
  omega

/-- Nothing has been handed to a connection before its first line. -/
theorem silent (ht : Tracks k h q) (hq : q.stage.isSilent = true) :
    handoversOn q.connection h = [] := by
  induction ht with
  | start => rfl
  | next hp hn ih =>
    cases hn with
    | opens n w b t =>
      -- the connection is new
      exact (List.append_nil _).trans (hp.handoversOn_of_lt (Nat.lt_succ_self n))
    | hand hh => cases hh <;> exact absurd hq (by simp [Stage.isSilent])
    | fail hh => exact absurd hq (by simp [Stage.isSilent])
    | _ => exact (List.append_nil _).trans (ih hq)

/-- A connection that is standing has not come to an end in any way. -/
theorem standing (ht : Tracks k h q) (hq : q.stage.isStanding = true) {e : Stamped}
    (he : e ∈ h) : ¬e.event.Ends q.connection := by
  induction ht with
  | start => exact absurd he List.not_mem_nil
  | next hp hn ih =>
    rcases List.mem_cons.mp he with rfl | hm
    · cases hn <;> grind [Event.Ends, Event.Breaks, Stage.isStanding]
    · cases hn with
      | opens n w b t =>
        -- only a connection that has been opened can have ended
        intro hend
        have hle : n + 1 ≤ n := hp.le_connection hm hend.connection
        omega
      | hand hh => cases hh <;> exact ih rfl hm
      | _ => first | exact ih hq hm | exact absurd hq Bool.false_ne_true

/-- The first line of a greeted connection, and the heartbeats after it. -/
theorem greeted (ht : Tracks k h q) {since pings : Nat} (hq : q.stage = .greeted since pings) :
    ⟨since, .handed q.connection .greeting k.syncLine⟩ ∈ h ∧ pingsOn q.connection h = pings := by
  induction ht generalizing pings with
  | start => exact absurd hq (by simp [Track.start])
  | @next h q _ _ hp hn ih =>
    cases hn with
    | @hand _ _ t source line hh =>
      have hc : pingsOn q.connection (⟨t, .handed q.connection source line⟩ :: h) =
          pingsOn q.connection h + if source = .heartbeat then 1 else 0 :=
        pingsOn_cons_of_handover (o := ⟨q.connection, source, line⟩) rfl
      cases hh with
      | greeting n w b t =>
        obtain ⟨rfl, rfl⟩ := Stage.greeted.inj hq
        exact ⟨List.mem_cons_self, hc.trans (congrArg (List.countP _) (hp.silent rfl))⟩
      | heartbeat s p n w b t hd =>
        obtain ⟨rfl, rfl⟩ := Stage.greeted.inj hq
        obtain ⟨hm, hpings⟩ := ih rfl
        exact ⟨List.mem_cons_of_mem _ hm, hc.trans (congrArg (· + 1) hpings)⟩
      | ticket s p n x w b t =>
        obtain ⟨hm, hpings⟩ := ih hq
        exact ⟨List.mem_cons_of_mem _ hm, hc.trans hpings⟩
    | fail hh => exact nomatch hq
    | _ =>
      first
      | exact ⟨List.mem_cons_of_mem _ (ih hq).1,
          (congrArg (List.countP _) (List.append_nil _)).trans (ih hq).2⟩
      | exact nomatch hq

theorem handoversOn_ne_nil (ht : Tracks k h q) {since pings : Nat}
    (hq : q.stage = .greeted since pings) : handoversOn q.connection h ≠ [] :=
  List.ne_nil_of_mem (mem_handoversOn.mpr ⟨rfl, _, (ht.greeted hq).1, rfl⟩)

end AlarmKeypad.Session.Tracks
