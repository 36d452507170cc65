import AlarmKeypad.Replay.Server
import Mathlib.Data.List.Nodup

namespace AlarmKeypad.Replay

theorem Session.ending_tick (s : Session) (log : Log) (paused : Bool) :
    (s.tick log paused).ending = s.ending := by
  unfold tick
  split
  · rfl
  · dsimp only
    split <;> rfl

/-- A tick ends no session. -/
theorem Session.ending_step_tick (s : Session) (log : Log) (paused : Bool) :
    (s.step log (.tick paused)).ending = s.ending := by
  unfold step
  split
  · exact s.ending_tick log paused
  · rfl

namespace Server

/-- What a server may have become. -/
inductive Reached : Server → Prop
  | new (log : Log) (interval : Nat) (reachable : Bool) : Reached (.new log interval reachable)
  | connect {s s' name} (h : Reached s) (hs : s.connect name = .ok s') : Reached s'
  | feed {s} (h : Reached s) (name : String) (i : SessionInput) : Reached (s.feed name i)
  | setPaused {s} (h : Reached s) (on : Bool) : Reached (s.setPaused on)
  | advance {s} (h : Reached s) (ms : Nat) : Reached (s.advance ms)
  | stop {s} (h : Reached s) : Reached s.stop
  | forget {s} (h : Reached s) : Reached s.forget

variable {s s' : Server} {c : Client} {f : Client → Client}

theorem ticks_frame (s : Server) (c : Client) :
    (s.ticks c).name = c.name ∧ (s.ticks c).session.ending = c.session.ending := by
  induction c using ticks.induct s with
  | case1 c h ih =>
    rw [ticks, dif_pos h]
    exact ⟨ih.1, ih.2.trans (c.session.ending_step_tick ..)⟩
  | case2 c h =>
    rw [ticks, dif_neg h]
    exact ⟨rfl, rfl⟩

theorem feed_name (s : Server) (name : String) (i : SessionInput) (c : Client) :
    (if c.name = name then { c with session := c.session.step s.log i } else c).name = c.name := by
  split <;> rfl

theorem clients_of_connect {name : String} (hs : s.connect name = .ok s') :
    s'.clients =
      s.clients.filter (·.name ≠ name) ++ [⟨name, .new, s.now + s.interval⟩] := by
  unfold connect at hs
  split at hs
  · exact nomatch hs
  · split at hs
    · exact nomatch hs
    · exact Except.ok.inj hs ▸ rfl

/-- No two clients have one name. -/
theorem Reached.nodup (h : s.Reached) : (s.clients.map Client.name).Nodup := by
  have same {cs : List Client} (hn : (cs.map Client.name).Nodup) {f : Client → Client}
      (hf : ∀ c, (f c).name = c.name) : ((cs.map f).map Client.name).Nodup := by
    rw [List.map_map]
    exact (List.map_congr_left fun c _ => hf c) ▸ hn
  induction h with
  | new => exact .nil
  | connect h hs ih =>
    rw [clients_of_connect hs, List.map_append, List.nodup_append]
    refine ⟨ih.sublist ((List.filter_sublist ..).map _), List.nodup_singleton _, ?_⟩
    rintro a ha b hb rfl
    obtain ⟨c, hc, rfl⟩ := List.mem_map.mp ha
    exact of_decide_eq_true (List.mem_filter.mp hc).2 (List.mem_singleton.mp hb)
  | @feed s h name i ih => exact same ih (s.feed_name name i)
  | setPaused h on ih => exact ih
  | @advance s h ms ih => exact same ih fun c => (ticks_frame _ c).1
  | stop h ih => exact same ih fun _ => rfl
  | forget h ih => exact same (ih.sublist ((List.filter_sublist ..).map _)) fun _ => rfl

theorem of_client? {name : String} (h : s.client? name = some c) :
    c ∈ s.clients ∧ c.name = name := by
  unfold client? at h
  exact ⟨List.mem_of_find?_eq_some h, by simpa using List.find?_some h⟩

theorem isConnected_of_mem (h : s.Reached) (hc : c ∈ s.clients) :
    s.isConnected c.name = c.session.isOpen := by
  unfold isConnected
  cases hfound : s.client? c.name with
  | none => exact absurd (decide_eq_true rfl) (List.find?_eq_none.mp hfound c hc)
  | some d =>
    obtain ⟨hd, hname⟩ := of_client? hfound
    obtain rfl : d = c := List.inj_on_of_nodup_map h.nodup hd hc hname
    rfl

theorem mem_droppedClients {name : String} : name ∈ s.droppedClients s' ↔
    s.isConnected name = true ∧ ∃ c ∈ s'.clients, c.name = name ∧ c.session.isOpen = false ∧
      c.session.ending ≠ some .hungUp := by
  simp only [droppedClients, List.mem_map, List.mem_filter]
  constructor
  · rintro ⟨c, ⟨hc, hdropped⟩, rfl⟩
    simp only [Bool.and_eq_true, Bool.not_eq_true', bne_iff_ne] at hdropped
    exact ⟨hdropped.1.1, c, hc, rfl, hdropped.1.2, hdropped.2⟩
  · rintro ⟨hconnected, c, hc, rfl, hover, hending⟩
    exact ⟨c, ⟨hc, by simp [hconnected, hover, hending]⟩, rfl⟩

/-- A client whose session stands as it stood is not dropped. -/
theorem not_mem_droppedClients (h : s.Reached) (hs : s'.clients = s.clients.map f)
    (hf : ∀ c, (f c).name = c.name) {name : String}
    (hsame : ∀ c ∈ s.clients, c.name = name →
      (f c).session.isOpen = c.session.isOpen) : name ∉ s.droppedClients s' := by
  intro hd
  obtain ⟨hconnected, d, hd, hname, hover, -⟩ := mem_droppedClients.mp hd
  rw [hs] at hd
  obtain ⟨c, hc, rfl⟩ := List.mem_map.mp hd
  obtain rfl : c.name = name := (hf c).symm.trans hname
  rw [isConnected_of_mem h hc, ← hsame c hc rfl, hover] at hconnected
  exact nomatch hconnected

/-- Nobody is dropped for time that passes, for the pause switch or for a client that comes; a
client may be dropped for what it sends itself; and when the server stops it drops all that are
there. -/
theorem droppedClients_only (h : s.Reached) :
    (∀ ms, s.droppedClients (s.advance ms) = []) ∧
      (∀ on, s.droppedClients (s.setPaused on) = []) ∧
      (∀ name s', s.connect name = .ok s' → s.droppedClients s' = []) ∧
      (∀ name i, s.droppedClients (s.feed name i) ⊆ [name]) ∧
      ∀ name, name ∈ s.droppedClients s.stop ↔ s.isConnected name = true := by
  refine ⟨fun ms => ?_, fun on => ?_, fun name s' hs => ?_, fun name i other hd => ?_,
    fun name => ?_⟩
  · refine List.eq_nil_iff_forall_not_mem.mpr fun name => ?_
    refine not_mem_droppedClients h rfl (fun c => (ticks_frame _ c).1) fun c _ _ => ?_
    exact congrArg Option.isNone (ticks_frame _ c).2
  · refine List.eq_nil_iff_forall_not_mem.mpr fun name => ?_
    exact not_mem_droppedClients h (List.map_id _).symm (fun _ => rfl) fun _ _ _ => rfl
  · refine List.eq_nil_iff_forall_not_mem.mpr fun other hd => ?_
    obtain ⟨hconnected, c, hc, rfl, hover, -⟩ := mem_droppedClients.mp hd
    rw [clients_of_connect hs] at hc
    rcases List.mem_append.mp hc with hc | hc
    · rw [isConnected_of_mem h (List.mem_filter.mp hc).1, hover] at hconnected
      exact nomatch hconnected
    -- the new session is open
    · obtain rfl := List.mem_singleton.mp hc
      exact nomatch hover
  · refine List.mem_singleton.mpr ?_
    by_contra hne
    refine not_mem_droppedClients h rfl (s.feed_name name i) (fun c _ hc => ?_) hd
    rw [if_neg (hc.trans_ne hne)]
  · rw [mem_droppedClients]
    refine ⟨And.left, fun hconnected => ⟨hconnected, ?_⟩⟩
    cases hfound : s.client? name with
    | none => simp [isConnected, hfound] at hconnected
    | some c =>
      have hopen : c.session.isOpen = true := by simpa [isConnected, hfound] using hconnected
      have hstop : c.session.step s.log .stop = c.session.close .stopped := if_pos hopen
      obtain ⟨hc, hname⟩ := of_client? hfound
      refine ⟨_, List.mem_map_of_mem hc, hname, ?_⟩
      rw [hstop]
      exact ⟨rfl, nofun⟩

end Server
end AlarmKeypad.Replay
