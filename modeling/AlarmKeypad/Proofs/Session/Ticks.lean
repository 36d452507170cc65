import AlarmKeypad.Proofs.Session.Shutdown

namespace AlarmKeypad.Session

def Phase.IsTicking : Phase → Prop
  | .live _ | .sending .. | .pinging _ => True
  | _ => False

theorem Phase.beats_of_not_ticking {p : Phase} (h : ¬p.IsTicking) : p.beats = 0 := by
  cases p <;> first | rfl | exact absurd trivial h

section
variable {k : KeypadSettings} {h past : List Stamped} {q : Track} {e : Stamped} {c since : Nat}
  {line : String}

/-- Nothing has been handed to a connection before it is greeted. -/
theorem Tracks.handoversOn_of_greeting (ht : Tracks k h q) (he : e :: past <:+ h)
    (ho : e.event.handover? = some ⟨c, .greeting, line⟩) : handoversOn c past = [] := by
  by_contra hne
  rcases (ht.orderly he ho).later hne with ⟨hs, -⟩ | ⟨id, rest, hs, -⟩ <;> exact nomatch hs

/-- A connection is greeted once. -/
theorem Tracks.greeting_unique (ht : Tracks k h q) {t t' : Nat} {l l' : String}
    (he : ⟨t, .handed c .greeting l⟩ ∈ h) (he' : ⟨t', .handed c .greeting l'⟩ ∈ h) : t = t' := by
  induction ht with
  | start => exact absurd he List.not_mem_nil
  | @next h q x q' hp hn ih =>
    have fresh {u v : Nat} {m m' : String} (hx : ⟨u, .handed c .greeting m⟩ = x)
        (hv : ⟨v, .handed c .greeting m'⟩ ∈ h) : False := by
      have ho : x.event.handover? = some ⟨c, .greeting, m⟩ := by
        rw [← hx]
        rfl
      have hnil := (hp.next hn).handoversOn_of_greeting (List.suffix_refl _) ho
      exact List.not_mem_nil (hnil ▸ mem_handoversOn.mpr ⟨rfl, _, hv, rfl⟩)
    rcases List.mem_cons.mp he with hx | hm <;> rcases List.mem_cons.mp he' with hx' | hm'
    · exact congrArg Stamped.time (hx.trans hx'.symm)
    · exact (fresh hx hm').elim
    · exact (fresh hx' hm).elim
    · exact ih hm hm'

theorem Tracks.heartbeat_not_early (ht : Tracks k h q) {l : String}
    (hg : ⟨since, .handed c .greeting l⟩ ∈ h) (he : e :: past <:+ h)
    (ho : e.event.handover? = some ⟨c, .heartbeat, line⟩) :
    ⟨since, .handed c .greeting k.syncLine⟩ ∈ past ∧
      since + (pingsOn c past + 1) * k.heartbeat ≤ e.time := by
  have horderly := ht.orderly he ho
  have hne : handoversOn c past ≠ [] := fun hnil => nomatch (horderly.first hnil).1
  rcases horderly.later hne with ⟨-, -, since', hg', hle⟩ | ⟨id, rest, hs, -⟩
  · have hmem := he.mem (List.mem_cons_of_mem e hg')
    obtain rfl := ht.greeting_unique hg hmem
    exact ⟨hg', hle⟩
  · exact nomatch hs

theorem pingsOn_cons_heartbeat (ho : e.event.handover? = some ⟨c, .heartbeat, line⟩) :
    pingsOn c (e :: h) = pingsOn c h + 1 :=
  pingsOn_cons_of_handover ho

theorem pingsOn_cons_other (ho : ∀ line, e.event.handover? ≠ some ⟨c, .heartbeat, line⟩) :
    pingsOn c (e :: h) = pingsOn c h := by
  rw [pingsOn_cons, List.countP_eq_zero.mpr, Nat.add_zero]
  rintro ⟨d, source, line⟩ hm hs
  obtain ⟨rfl, rfl⟩ := of_decide_eq_true hs
  exact ho line (Option.mem_toList.mp hm)

theorem pingsOn_filter_le (p : Stamped → Bool) : pingsOn c (h.filter p) ≤ pingsOn c h := by
  induction h with
  | nil => exact Nat.le_refl _
  | cons e h ih =>
    rw [List.filter_cons, pingsOn_cons]
    split
    · rw [pingsOn_cons]
      exact Nat.add_le_add_right ih _
    · exact Nat.le_trans ih (Nat.le_add_right _ _)

/-- Heartbeats that are not early for their numbers are not too many by any time. -/
theorem pingsOn_by {period : Nat} (hall : ∀ e past line, e :: past <:+ h →
      e.event.handover? = some ⟨c, .heartbeat, line⟩ →
      since + (pingsOn c past + 1) * period ≤ e.time) (t : Nat) :
    pingsOn c (h.filter (·.time ≤ t)) = 0 ∨
      since + pingsOn c (h.filter (·.time ≤ t)) * period ≤ t := by
  induction h with
  | nil => exact .inl rfl
  | cons e h ih =>
    have ih := ih fun e' past line he => hall e' past line (he.trans (List.suffix_cons e h))
    rw [List.filter_cons]
    split
    · rename_i htime
      by_cases ho : ∃ line, e.event.handover? = some ⟨c, .heartbeat, line⟩
      · obtain ⟨line, ho⟩ := ho
        -- the last of them is not early, and so they are all in time
        have hdue := hall e h line (List.suffix_refl _) ho
        have hle : pingsOn c (h.filter (·.time ≤ t)) + 1 ≤ pingsOn c h + 1 :=
          Nat.add_le_add_right (pingsOn_filter_le _) 1
        rw [pingsOn_cons_heartbeat ho]
        right
        calc since + (pingsOn c (h.filter (·.time ≤ t)) + 1) * period
            ≤ since + (pingsOn c h + 1) * period :=
              Nat.add_le_add_left (Nat.mul_le_mul_right _ hle) _
          _ ≤ e.time := hdue
          _ ≤ t := of_decide_eq_true htime
      · rw [pingsOn_cons_other fun line hl => ho ⟨line, hl⟩]
        exact ih
    · exact ih

end

namespace State

variable {s s' : State} {t : Turn} {c : Nat}

/-- The times at which a heartbeat of a connection is begun on the way. -/
def ticksOn (c : Nat) (s : State) : List Turn → List Nat
  | [] => []
  | t :: ts =>
    (if s.connections = c ∧ s.phase.beats < (s.turn t).phase.beats then [(s.turn t).now] else []) ++
      (s.turn t).ticksOn c ts

theorem ticksOn_concat (s : State) (ts : List Turn) (t : Turn) :
    s.ticksOn c (ts ++ [t]) = s.ticksOn c ts ++
      if (s.run ts).connections = c ∧ (s.run ts).phase.beats < ((s.run ts).turn t).phase.beats then
        [((s.run ts).turn t).now]
      else [] := by
  induction ts generalizing s with
  | nil => exact List.append_nil _
  | cons u ts ih =>
    change _ ++ (s.turn u).ticksOn c (ts ++ [t]) = (_ ++ _) ++ _
    rw [ih, List.append_assoc]
    rfl

def beatsOn (c : Nat) (s : State) : Nat :=
  pingsOn c s.history + if s.connections = c then s.phase.beats else 0

/-- Lines go over when they are handed over, and at no other turn. -/
theorem adds_of_not_hand (ht : s.turn? t = some s') (hh : t ≠ .move .handed)
    (hf : t ≠ .move .handFailed) : Adds (·.handover? = none) s.history s'.history := by
  apply (advances_turn ht).adds.mono
  intro e he
  cases e with
  | handed c source line => exact absurd he.1 hh
  | handFailed c source line => exact absurd he.1 hf
  | _ => rfl

theorem pingsOn_of_not_hand (ht : s.turn? t = some s') (hh : t ≠ .move .handed)
    (hf : t ≠ .move .handFailed) : pingsOn c s'.history = pingsOn c s.history :=
  pingsOn_of_adds (adds_of_not_hand ht hh hf) fun _ _ he ho => nomatch he.symm.trans ho

/-- Heartbeats are set by the first line of a connection, and at no other turn. -/
theorem ticking_of_not_hand (ht : s.turn? t = some s') (hh : t ≠ .move .handed)
    (hf : t ≠ .move .handFailed) (hp : s'.phase.IsTicking) : s.phase.IsTicking := by
  by_cases hl : s.Leaves t
  · cases t with
    | late ms => exact hl.elim
    | move m =>
      cases m with
      | handed => exact absurd rfl hh
      | handFailed => exact absurd rfl hf
      | elapse | call | received => exact hl.elim
      | act =>
        change s.act? = some s' at ht
        unfold act? at ht
        split at ht <;> grind [goTo, record, drop, Phase.IsTicking]
      | resume id =>
        have hidle : s.phase = .idle := hl
        change s.resume? id = some s' at ht
        unfold resume? at ht
        split at ht <;> grind [record, returned, waiting, Phase.IsTicking]
      | closed =>
        obtain ⟨-, rfl⟩ := of_closed? ht
        exact hp.elim
      | _ =>
        obtain ⟨-, hs⟩ := Option.ite_none_right_eq_some.mp ht
        obtain rfl := Option.some.inj hs
        exact hp.elim
  · exact (advances_turn ht).phase hl ▸ hp

/-- A line that is being handed over is so until it has gone over or failed. -/
theorem phase_of_pending (hp : s.pending?.isSome = true) (ht : s.turn? t = some s')
    (hh : t ≠ .move .handed) (hf : t ≠ .move .handFailed) : s'.phase = s.phase := by
  refine (advances_turn ht).phase fun hl => ?_
  unfold Leaves at hl
  split at hl <;> grind [act?, pending?, Listens]

theorem beatsOn_of_not_hand (h : s.Tracked) (ht : s.turn? t = some s') (hh : t ≠ .move .handed)
    (hf : t ≠ .move .handFailed) : s'.beatsOn c = s.beatsOn c +
      if s.connections = c ∧ s.phase.beats < s'.phase.beats then 1 else 0 := by
  unfold beatsOn
  rw [pingsOn_of_not_hand ht hh hf, Nat.add_assoc]
  congr 1
  by_cases hp : s.phase.IsTicking
  · have hopening : s.phase ≠ .opening := fun hop => (hop ▸ hp : Phase.opening.IsTicking)
    have hmono : s.phase.beats ≤ s'.phase.beats := by
      cases hping : s.phase with
      | pinging d =>
        have hpending : s.pending?.isSome = true := by rw [pending?, hping]; rfl
        rw [phase_of_pending hpending ht hh hf, hping]
      | _ => exact Nat.zero_le _
    have hone : s'.phase.beats ≤ 1 := by
      unfold Phase.beats
      split <;> decide
    rw [connections_turn h (fun ho => hopening ho.1) ht]
    split <;> split <;> omega
  · have hp' : ¬s'.phase.IsTicking := fun hp' => hp (ticking_of_not_hand ht hh hf hp')
    simp [Phase.beats_of_not_ticking hp, Phase.beats_of_not_ticking hp']

/-- A heartbeat that goes over, or fails, is one that has been begun. -/
theorem beatsOn_hand {source : Source} {line : String} (hp : s.pending? = some (source, line))
    {e : Event} (he : e.handover? = some ⟨s.connections, source, line⟩) {u : State}
    (hu : pingsOn c u.history = pingsOn c (s.record e).history) (hbeats : u.phase.beats = 0) :
    u.beatsOn c = s.beatsOn c := by
  have hsource : s.phase.beats = if source = .heartbeat then 1 else 0 := by
    unfold pending? at hp
    split at hp <;> grind [Phase.beats]
  unfold beatsOn
  rw [hu, hbeats, ite_self, Nat.add_zero, hsource]
  change pingsOn c (_ :: s.history) = _
  rw [pingsOn_cons, he]
  by_cases hc : s.connections = c <;> by_cases hs : source = .heartbeat <;> simp [hc, hs]

theorem beats_of_handed (ht : s.handed? = some s') : s'.phase.beats = 0 := by
  obtain ⟨source, line, hp, rfl⟩ := of_handed? ht
  unfold pending? at hp
  unfold afterHanding setHeartbeat
  split <;> grind [record, goTo, drop, Phase.beats]

theorem beatsOn_turn (h : s.Tracked) (ht : s.turn? t = some s') : s'.beatsOn c = s.beatsOn c +
    if s.connections = c ∧ s.phase.beats < s'.phase.beats then 1 else 0 := by
  by_cases hh : t = .move .handed
  · subst hh
    obtain ⟨source, line, hp, rfl⟩ := of_handed? ht
    have hafter := beats_of_handed ht
    rw [hafter, if_neg (by simp), Nat.add_zero]
    refine beatsOn_hand hp (e := .handed s.connections source line) rfl ?_ hafter
    unfold afterHanding setHeartbeat
    split <;> try rfl
    split
    · rfl
    · exact pingsOn_cons_other fun _ => nofun
  · by_cases hf : t = .move .handFailed
    · subst hf
      obtain ⟨⟨source, line⟩, hp, rfl⟩ := Option.map_eq_some_iff.mp ht
      rw [if_neg fun hlt => Nat.not_lt_zero _ hlt.2, Nat.add_zero]
      exact beatsOn_hand hp (e := .handFailed s.connections source line) rfl rfl rfl
    · exact beatsOn_of_not_hand h ht hh hf

/-- A heartbeat is begun on the connection that was ticking. -/
theorem connections_of_beats (h : s.Tracked) (ht : s.turn? t = some s')
    (hb : s.phase.beats < s'.phase.beats) : s'.connections = s.connections := by
  have hpos : 0 < s'.phase.beats := Nat.zero_lt_of_lt hb
  have hp : s.phase.IsTicking := by
    apply ticking_of_not_hand ht
    · rintro rfl
      exact absurd (beats_of_handed ht) hpos.ne'
    · rintro rfl
      obtain ⟨⟨source, line⟩, -, rfl⟩ := Option.map_eq_some_iff.mp ht
      exact nomatch hpos
    · by_contra hp
      exact absurd (Phase.beats_of_not_ticking hp) hpos.ne'
  exact connections_turn h (fun ho => (ho.1 ▸ hp : Phase.opening.IsTicking)) ht

/-- A tick of a connection is for a heartbeat on it, and no heartbeat goes over without. -/
theorem length_ticksOn (k : KeypadSettings) (c : Nat) (ts : List Turn) :
    ((init k).ticksOn c ts).length = ((init k).run ts).beatsOn c := by
  induction ts using List.reverseRecOn with
  | nil =>
    rw [run_nil, beatsOn, show (init k).phase.beats = 0 from rfl, ite_self]
    rfl
  | append_singleton ts t ih =>
    rw [ticksOn_concat, List.length_append, ih, run_append, run_cons, run_nil]
    cases ht : ((init k).run ts).turn? t with
    | none => simp [turn_eq_self ht]
    | some s' =>
      rw [turn_eq ht, beatsOn_turn (run_tracked k ts) ht]
      split <;> rfl

/-- A heartbeat that is being handed over is not early for its number. -/
theorem Tracked.beat (h : s.Tracked) (hp : 0 < s.phase.beats) :
    ∃ since, ⟨since, .handed s.connections .greeting s.settings.syncLine⟩ ∈ s.history ∧
      since + s.beatsOn s.connections * s.settings.heartbeat ≤ s.now := by
  obtain ⟨q, ht, hs⟩ := h
  have fits := hs.fits
  cases hphase : s.phase with
  | pinging d =>
    rw [hphase] at fits
    obtain ⟨since, pings, hq, hle, -⟩ := fits
    obtain ⟨hmem, hpings⟩ := ht.greeted hq
    rw [← hs.connection] at hmem hpings
    refine ⟨since, hmem, ?_⟩
    rw [beatsOn, if_pos rfl, hphase, hpings]
    exact hle
  | _ => simp [hphase, Phase.beats] at hp

theorem tick_not_early (h : s.Tracked) (ht : s.turn? t = some s')
    (hb : s.phase.beats < s'.phase.beats) :
    ∃ since, ⟨since, .handed s.connections .greeting s.settings.syncLine⟩ ∈ s'.history ∧
      since + (s.beatsOn s.connections + 1) * s.settings.heartbeat ≤ s'.now := by
  obtain ⟨since, hmem, hle⟩ := (h.turn ht).beat (Nat.zero_lt_of_lt hb)
  have hsettings : s'.settings = s.settings := turn_eq ht ▸ settings_run s [t]
  rw [connections_of_beats h ht hb, hsettings, beatsOn_turn h ht, if_pos ⟨rfl, hb⟩] at hle
  rw [connections_of_beats h ht hb, hsettings] at hmem
  exact ⟨since, hmem, hle⟩

theorem ticksOn_not_early (k : KeypadSettings) (ts : List Turn) {n u : Nat}
    (hu : ((init k).ticksOn c ts)[n]? = some u) :
    ∃ since, ⟨since, .handed c .greeting k.syncLine⟩ ∈ ((init k).run ts).history ∧
      since + (n + 1) * k.heartbeat ≤ u := by
  induction ts using List.reverseRecOn with
  | nil => exact nomatch hu
  | append_singleton ts t ih =>
    rw [run_append, run_cons, run_nil]
    rw [ticksOn_concat] at hu
    rcases lt_or_ge n ((init k).ticksOn c ts).length with hn | hn
    · rw [List.getElem?_append_left hn] at hu
      obtain ⟨since, hmem, hle⟩ := ih hu
      exact ⟨since, (history_suffix_run ((init k).run ts) [t]).mem hmem, hle⟩
    · obtain ⟨i, rfl⟩ := Nat.exists_eq_add_of_le hn
      rw [List.getElem?_append_right hn, Nat.add_sub_cancel_left] at hu
      split at hu
      · rename_i htick
        obtain ⟨rfl, hbeats⟩ := htick
        cases i with
        | succ i => exact nomatch hu
        | zero =>
          obtain rfl := Option.some.inj hu
          rw [length_ticksOn]
          cases ht : ((init k).run ts).turn? t with
          | none => simp [turn_eq_self ht] at hbeats
          | some s' =>
            rw [turn_eq ht] at hbeats ⊢
            have hsettings : ((init k).run ts).settings = k := settings_run _ ts
            have hearly := tick_not_early (run_tracked k ts) ht hbeats
            rwa [hsettings] at hearly
      · exact nomatch hu

end State
end AlarmKeypad.Session
