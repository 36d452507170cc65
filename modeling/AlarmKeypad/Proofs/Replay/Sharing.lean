import AlarmKeypad.Proofs.Replay.Turns

namespace AlarmKeypad.Replay

structure Sessions where
  paused : Bool
  session : Nat → Session

inductive Move where
  | setPaused (on : Bool)
  | toggle
  /-- One session takes a turn. -/
  | turn (i : Nat) (t : Turn)
deriving DecidableEq

/-- The turns of a session, each with the pause switch as it stands then. -/
def turnsOf (i : Nat) (paused : Bool) : List Move → List (Bool × Turn)
  | [] => []
  | .setPaused on :: ms => turnsOf i on ms
  | .toggle :: ms => turnsOf i (!paused) ms
  | .turn j t :: ms =>
    if j = i then (paused, t) :: turnsOf i paused ms else turnsOf i paused ms

namespace Sessions

def new : Sessions := ⟨false, fun _ => .new⟩

def move (log : Log) (σ : Sessions) : Move → Sessions
  | .setPaused on => { σ with paused := on }
  | .toggle => { σ with paused := !σ.paused }
  | .turn i t =>
    { σ with session := fun j =>
        if i = j then (σ.session j).turn log σ.paused t else σ.session j }

def run (log : Log) (σ : Sessions) (ms : List Move) : Sessions := ms.foldl (move log) σ

/-- What the other sessions do is nothing to a session. -/
theorem session_run (log : Log) (σ : Sessions) (ms : List Move) (i : Nat) :
    (σ.run log ms).session i = (σ.session i).turns log (turnsOf i σ.paused ms) := by
  induction ms generalizing σ with
  | nil => rfl
  | cons m ms ih =>
    refine (ih (σ.move log m)).trans ?_
    cases m with
    | setPaused on => rfl
    | toggle => rfl
    | turn j t =>
      rw [turnsOf]
      change (if j = i then (σ.session i).turn log σ.paused t else σ.session i).turns log
        (turnsOf i σ.paused ms) = _
      split <;> rfl

theorem run_append (log : Log) (σ : Sessions) (ms ms' : List Move) :
    σ.run log (ms ++ ms') = (σ.run log ms).run log ms' := List.foldl_append

/-- What a session has become is told by its own turns. -/
theorem session_run_eq (log : Log) (ms : List Move) (i : Nat) : (new.run log ms).session i =
    { (effects (turnsOf i false ms)).foldl (Session.act log) .new with
      ending := (turnsOf i false ms).findSome? fun t => t.2.ending? } :=
  (session_run log new ms i).trans (Session.turns_eq rfl _)

theorem sent_run (log : Log) (ms : List Move) (i : Nat) : ((new.run log ms).session i).Sent log
    ((live (turnsOf i false ms)).count (false, .tick))
    ((live (turnsOf i false ms)).countP fun t => t.2.isPing) := by
  have hsent := (Session.Sent.new log).foldl_act (effects (turnsOf i false ms))
  rw [count_advance, count_answer, Nat.zero_add, Nat.zero_add] at hsent
  rw [session_run_eq]
  exact ⟨hsent.position_eq, hsent.interleaves⟩

/-- Replay neither skips nor repeats. What a session has written is, in order, the lines of the log
repeated without end as far as its ticks outside of pauses have taken it, and among them an answer
to every ping. Its position is where those ticks lead. It ends with its first turn that ends it, and
nothing comes after; and nothing but the order of those ticks and of pings tells in it. -/
theorem neither_skips_nor_repeats (log : Log) (ms : List Move) (i : Nat) :
    let s := (new.run log ms).session i
    let own := turnsOf i false ms
    let u := (live own).count (false, .tick)
    let pings := (live own).countP fun t => t.2.isPing
    Interleaves ((log.entries u).map (· ++ "\r\n")) (List.replicate pings "!PONG:00000000\r\n")
        (s.written.reverse.map Written.text) ∧
      s.cursor.position = u % log.size ∧ s.cursor.position < log.size ∧
      s.ending = own.findSome? (fun t => t.2.ending?) ∧
      (∀ more, s.ending ≠ none → (new.run log (ms ++ more)).session i = s) ∧
      ∀ ms', effects (turnsOf i false ms') = effects own →
        ((new.run log ms').session i).written = s.written ∧
          ((new.run log ms').session i).cursor = s.cursor := by
  intro s own u pings
  have hrun := session_run_eq log
  have hsent : s.Sent log u pings := sent_run log ms i
  refine ⟨hsent.interleaves, hsent.position_eq, ?_, congrArg Session.ending (hrun ms i),
    fun more hover => ?_, fun ms' heff => ?_⟩
  · rw [hsent.position_eq]
    exact Nat.mod_lt _ log.size_pos
  · rw [run_append, session_run]
    refine Session.turns_of_over ?_ _
    simpa [Session.isOpen] using hover
  · rw [hrun ms', heff, show s = _ from hrun ms i]
    exact ⟨rfl, rfl⟩

end Sessions
end AlarmKeypad.Replay
