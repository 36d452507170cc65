import AlarmKeypad.Replay.Session

namespace AlarmKeypad.Replay

/-! ## Order -/

/-- The third list takes all of the first and all of the second, each in its order. -/
inductive Interleaves {α : Type} : List α → List α → List α → Prop
  | nil : Interleaves [] [] []
  | left {a b w : List α} (x : α) : Interleaves a b w → Interleaves (x :: a) b (x :: w)
  | right {a b w : List α} (x : α) : Interleaves a b w → Interleaves a (x :: b) (x :: w)

namespace Interleaves

variable {α : Type} {a b w : List α}

theorem append_left (h : Interleaves a b w) (x : α) : Interleaves (a ++ [x]) b (w ++ [x]) := by
  induction h with
  | nil => exact .left x .nil
  | left y _ ih => exact .left y ih
  | right y _ ih => exact .right y ih

theorem append_right (h : Interleaves a b w) (x : α) : Interleaves a (b ++ [x]) (w ++ [x]) := by
  induction h with
  | nil => exact .right x .nil
  | left y _ ih => exact .left y ih
  | right y _ ih => exact .right y ih

end Interleaves

/-! ## What is to be sent -/

namespace Log

def line (log : Log) (k : Nat) : String := log.lines.get ⟨k % log.size, Nat.mod_lt _ log.size_pos⟩

/-- The first lines of the repeated log, without the empty ones. -/
def entries (log : Log) (u : Nat) : List String := ((List.range u).map log.line).filter (· ≠ "")

theorem entries_succ (log : Log) (u : Nat) :
    log.entries (u + 1) = log.entries u ++ [log.line u].filter (· ≠ "") := by
  rw [entries, List.range_succ, List.map_append, List.filter_append]
  rfl

end Log

theorem advance_eq {log : Log} {c : Cursor} {u : Nat} (h : c.position = u % log.size) :
    c.advance log = ((some (log.line u)).filter (· ≠ ""), ⟨(u + 1) % log.size⟩) := by
  have hlt : u % log.size < log.lines.length := Nat.mod_lt _ log.size_pos
  unfold Cursor.advance Log.line
  rw [h, List.getElem?_eq_getElem hlt, Nat.mod_add_mod]
  rfl

/-- After `u` steps through the log and `p` answers. -/
structure Session.Sent (log : Log) (u p : Nat) (s : Session) : Prop where
  position_eq : s.cursor.position = u % log.size
  interleaves : Interleaves ((log.entries u).map (· ++ "\r\n"))
    (List.replicate p "!PONG:00000000\r\n") (s.written.reverse.map Written.text)

/-! ## What turns do -/

inductive Effect where
  | advance
  | answer
deriving DecidableEq

namespace Turn

def ending? : Turn → Option SessionEnd
  | .badInput => some .badInput
  | .hangUp => some .hungUp
  | .stop => some .stopped
  | .tick | .line _ => none

def isPing : Turn → Bool
  | .line l => Replay.isPing l
  | .tick | .badInput | .hangUp | .stop => false

def effect? (paused : Bool) : Turn → Option Effect
  | .tick => if paused then none else some .advance
  | .line l => if Replay.isPing l then some .answer else none
  | .badInput | .hangUp | .stop => none

end Turn

/-- The turns before the one that ends the session. -/
def live (ts : List (Bool × Turn)) : List (Bool × Turn) :=
  ts.takeWhile fun t => t.2.ending?.isNone

def effects (ts : List (Bool × Turn)) : List Effect := (live ts).filterMap fun t => t.2.effect? t.1

namespace Session

variable {log : Log} {s : Session}

def act (log : Log) (s : Session) : Effect → Session
  | .advance => s.tick log false
  | .answer => s.write .pong

def turns (log : Log) (s : Session) (ts : List (Bool × Turn)) : Session :=
  ts.foldl (fun s t => s.turn log t.1 t.2) s

theorem turn_of_over (h : ¬s.isOpen) (paused : Bool) (t : Turn) : s.turn log paused t = s :=
  if_neg h

theorem turns_of_over (h : ¬s.isOpen) (ts : List (Bool × Turn)) : s.turns log ts = s := by
  induction ts with
  | nil => rfl
  | cons t ts ih =>
    unfold turns at ih ⊢
    rw [List.foldl_cons, turn_of_over h, ih]

theorem tick_eq (log : Log) (s : Session) : s.tick log false =
    { s with
      cursor := (s.cursor.advance log).2
      written := ((s.cursor.advance log).1.map .entry).toList ++ s.written } := by
  unfold tick
  rw [if_neg (by decide)]
  rcases s.cursor.advance log with ⟨_ | l, c⟩ <;> rfl

theorem isOpen_act (e : Effect) : (s.act log e).isOpen = s.isOpen := by
  cases e with
  | advance =>
    rw [act, tick_eq]
    rfl
  | answer => rfl

/-- A turn ends the session, or it has its effect, if it has one. -/
theorem turn_eq (h : s.isOpen) (paused : Bool) (t : Turn) : s.turn log paused t =
    match t.ending? with
    | some e => s.close e
    | none => (t.effect? paused).toList.foldl (act log) s := by
  refine (if_pos h).trans ?_
  cases t with
  | tick => cases paused <;> rfl
  | line l =>
    change s.hear l = (if isPing l then some Effect.answer else none).toList.foldl (act log) s
    unfold hear
    split <;> rfl
  | badInput => rfl
  | hangUp => rfl
  | stop => rfl

theorem effects_cons_ending {t : Bool × Turn} {e : SessionEnd} (h : t.2.ending? = some e)
    (ts : List (Bool × Turn)) : effects (t :: ts) = [] := by
  simp [effects, live, h]

theorem effects_cons {t : Bool × Turn} (h : t.2.ending? = none) (ts : List (Bool × Turn)) :
    effects (t :: ts) = (t.2.effect? t.1).toList ++ effects ts := by
  simp only [effects, live, h, Option.isNone_none, List.takeWhile_cons_of_pos, List.filterMap_cons]
  cases t.2.effect? t.1 <;> rfl

/-- What a session has become is told by the effects of its turns and by the one that ends it. -/
theorem turns_eq (h : s.isOpen) (ts : List (Bool × Turn)) :
    s.turns log ts = { (effects ts).foldl (act log) s with
      ending := ts.findSome? fun t => t.2.ending? } := by
  induction ts generalizing s with
  | nil =>
    have hopen : s.ending = none := Option.isNone_iff_eq_none.mp h
    cases s
    exact congrArg _ hopen
  | cons t ts ih =>
    have hcons : s.turns log (t :: ts) = (s.turn log t.1 t.2).turns log ts := rfl
    rw [hcons, turn_eq h]
    cases hend : t.2.ending? with
    | some e =>
      rw [effects_cons_ending hend, turns_of_over (by simp [close, isOpen]),
        List.findSome?_cons, hend]
      rfl
    | none =>
      have hopen : ((t.2.effect? t.1).toList.foldl (act log) s).isOpen := by
        cases t.2.effect? t.1 with
        | none => exact h
        | some e => exact (isOpen_act e).trans h
      rw [effects_cons hend, List.foldl_append, List.findSome?_cons, hend]
      exact ih hopen

end Session

/-! ## What is sent -/

namespace Session.Sent

variable {log : Log} {u p : Nat} {s : Session}

theorem new (log : Log) : Session.new.Sent log 0 0 := ⟨(Nat.zero_mod _).symm, .nil⟩

theorem advance (h : s.Sent log u p) : (s.act log .advance).Sent log (u + 1) p := by
  have hadv := advance_eq h.position_eq
  unfold act
  rw [tick_eq, hadv]
  refine ⟨rfl, ?_⟩
  rw [Log.entries_succ]
  by_cases hl : log.line u = ""
  · simpa [hl, Option.filter_some] using h.interleaves
  · simpa [hl, Option.filter_some, Written.text, Written.line] using
      h.interleaves.append_left (log.line u ++ "\r\n")

theorem answer (h : s.Sent log u p) : (s.act log .answer).Sent log u (p + 1) := by
  have hpong : Written.pong.text = "!PONG:00000000\r\n" := by decide
  refine ⟨h.position_eq, ?_⟩
  rw [List.replicate_succ']
  simpa [act, write, hpong] using h.interleaves.append_right "!PONG:00000000\r\n"

theorem foldl_act (h : s.Sent log u p) (es : List Effect) :
    (es.foldl (act log) s).Sent log (u + es.count .advance) (p + es.count .answer) := by
  induction es generalizing s u p with
  | nil => exact h
  | cons e es ih =>
    cases e with
    | advance =>
      have := ih h.advance
      rw [List.count_cons_self, List.count_cons_of_ne (by decide)]
      rwa [Nat.add_right_comm] at this
    | answer =>
      have := ih h.answer
      rw [List.count_cons_self, List.count_cons_of_ne (by decide)]
      rwa [Nat.add_right_comm] at this

end Session.Sent

theorem Turn.effect?_eq_advance {paused : Bool} {t : Turn} :
    t.effect? paused = some .advance ↔ paused = false ∧ t = .tick := by
  cases t <;> simp [Turn.effect?]

theorem Turn.effect?_eq_answer {paused : Bool} {t : Turn} :
    t.effect? paused = some .answer ↔ t.isPing := by
  cases t <;> simp [Turn.effect?, Turn.isPing]

theorem count_advance (ts : List (Bool × Turn)) :
    (effects ts).count .advance = (live ts).count (false, .tick) := by
  rw [effects, List.count_filterMap]
  refine List.countP_congr fun t _ => ?_
  rw [beq_iff_eq, beq_iff_eq, Turn.effect?_eq_advance, Prod.ext_iff]

theorem count_answer (ts : List (Bool × Turn)) :
    (effects ts).count .answer = (live ts).countP fun t => t.2.isPing := by
  rw [effects, List.count_filterMap]
  refine List.countP_congr fun t _ => ?_
  rw [beq_iff_eq, Turn.effect?_eq_answer]

/-! ## Bytes -/

/-- The ticks in what happens to a session, each with the pause switch as it stands. -/
def SessionInput.ticks : SessionInput → List (Bool × Turn)
  | .tick paused => [(paused, .tick)]
  | .bytes _ | .hangUp | .stop => []

namespace Session

variable {log : Log}

theorem turns_append (s : Session) (ts ts' : List (Bool × Turn)) :
    s.turns log (ts ++ ts') = (s.turns log ts).turns log ts' := List.foldl_append

/-- Turns neither see nor change the bytes that wait. -/
theorem turn_inbound (s : Session) (b : LineBuffer) (paused : Bool) (t : Turn) :
    { s with inbound := b }.turn log paused t = { s.turn log paused t with inbound := b } := by
  unfold turn
  change (if s.isOpen then _ else _) = _
  split
  case isFalse => rfl
  case isTrue =>
    cases t with
    | tick =>
      cases paused with
      | false => simp only [tick_eq]
      | true => rfl
    | line l =>
      unfold hear
      dsimp only
      split <;> rfl
    | badInput => rfl
    | hangUp => rfl
    | stop => rfl

theorem turns_inbound (s : Session) (b : LineBuffer) (ts : List (Bool × Turn)) :
    { s with inbound := b }.turns log ts = { s.turns log ts with inbound := b } := by
  induction ts generalizing s with
  | nil => rfl
  | cons t ts ih => exact (congrArg (turns log · ts) (turn_inbound ..)).trans (ih _)

/-- The session is where turns of its loop take it, but for the bytes that wait. -/
def Follows (log : Log) (s s' : Session) (ts : List (Bool × Turn)) : Prop :=
  s' = { s.turns log ts with inbound := s'.inbound }

theorem Follows.trans {s s' s'' : Session} {ts ts' : List (Bool × Turn)} (h : Follows log s s' ts)
    (h' : Follows log s' s'' ts') : Follows log s s'' (ts ++ ts') := by
  unfold Follows at h h' ⊢
  rw [h, turns_inbound] at h'
  rw [turns_append]
  exact h'

theorem Follows.nil (s : Session) (b : LineBuffer) : Follows log s { s with inbound := b } [] := rfl

/-- A turn is followed, whatever bytes wait. -/
theorem Follows.turn {s s' : Session} (b : LineBuffer) {paused : Bool} {t : Turn}
    (h : { s with inbound := b }.turn log paused t = s') : Follows log s s' [(paused, t)] := by
  subst h
  rw [turn_inbound]
  rfl

theorem isOpen_hear (s : Session) (l : String) : (s.hear l).isOpen = s.isOpen := by
  unfold hear
  split <;> rfl

section
variable {s : Session} (h : s.isOpen) (b : LineBuffer)
include h

theorem Follows.line (l : String) :
    Follows log s ({ s with inbound := b }.hear l) [(false, .line l)] :=
  .turn b (if_pos h)

theorem Follows.badInput :
    Follows log s ({ s with inbound := b }.close .badInput) [(false, .badInput)] :=
  .turn b (if_pos h)

theorem Follows.hangUp :
    Follows log s ({ s with inbound := b }.close .hungUp) [(false, .hangUp)] :=
  .turn b (if_pos h)

end

/-- To read is to take lines, and to end with one that is bad. -/
theorem Follows.read (log : Log) {s : Session} (h : s.isOpen) :
    ∃ ts, (∀ t ∈ ts, t.2 ≠ .tick) ∧ Follows log s s.read ts := by
  fun_induction Session.read s with
  | case1 s l d bs hlook ih =>
    obtain ⟨ts, hts, hread⟩ := ih ((isOpen_hear ..).trans h)
    exact ⟨(false, .line l) :: ts, by simpa using hts, (Follows.line h _ l).trans hread⟩
  | case2 s d bs hlook | case3 s d bs hlook => exact ⟨[(false, .badInput)], by simp, .badInput h _⟩
  | case4 s d bs hlook => exact ⟨[], by simp, .nil s _⟩

theorem Follows.readRest (log : Log) {s : Session} (h : s.isOpen) :
    ∃ ts, (∀ t ∈ ts, t.2 ≠ .tick) ∧ Follows log s s.readRest ts := by
  unfold Session.readRest
  split
  case h_1 l d bs hlook =>
    have hopen : ({ s with inbound := ⟨d, bs⟩ }.hear l).isOpen := (isOpen_hear ..).trans h
    have hline : Follows log s ({ s with inbound := ⟨d, bs⟩ }.hear l) _ := .line h _ l
    exact ⟨[(false, .line l), (false, .hangUp)], by simp, hline.trans (.hangUp hopen _)⟩
  case h_2 | h_3 => exact ⟨[(false, .badInput)], by simp, .badInput h _⟩
  case h_4 => exact ⟨[(false, .hangUp)], by simp, .hangUp h _⟩

theorem Follows.readLast (log : Log) {s : Session} (h : s.isOpen) :
    ∃ ts, (∀ t ∈ ts, t.2 ≠ .tick) ∧ Follows log s s.readLast ts := by
  obtain ⟨ts, hts, hread⟩ := Follows.read log h
  unfold Session.readLast
  split
  case isFalse => exact ⟨ts, hts, hread⟩
  case isTrue hopen =>
    obtain ⟨ts', hts', hrest⟩ := Follows.readRest log hopen
    refine ⟨ts ++ ts', fun t ht => ?_, hread.trans hrest⟩
    exact (List.mem_append.mp ht).elim (hts t) (hts' t)

/-- Whatever happens to a session is turns of its loop. -/
theorem Follows.step (log : Log) (s : Session) (i : SessionInput) :
    ∃ ts, ts.filter (·.2 = .tick) = i.ticks ∧ Follows log s (s.step log i) ts := by
  have hnone {ts : List (Bool × Turn)} (hts : ∀ t ∈ ts, t.2 ≠ .tick) :
      ts.filter (·.2 = .tick) = [] := List.filter_eq_nil_iff.mpr (by simpa using hts)
  unfold Session.step
  split
  case isFalse h =>
    refine ⟨i.ticks, by cases i <;> simp [SessionInput.ticks], ?_⟩
    unfold Follows
    rw [turns_of_over h]
  case isTrue h =>
    cases i with
    | tick paused =>
      have hturn : s.turn log paused .tick = s.tick log paused := if_pos h
      exact ⟨[(paused, .tick)], by simp [SessionInput.ticks], Follows.turn s.inbound hturn⟩
    | bytes bs =>
      obtain ⟨ts, hts, hread⟩ :=
        Follows.read log (s := { s with inbound := s.inbound.append bs }) h
      exact ⟨ts, hnone hts, (Follows.nil s _).trans hread⟩
    | hangUp =>
      obtain ⟨ts, hts, hread⟩ := Follows.readLast log h
      exact ⟨ts, hnone hts, hread⟩
    | stop =>
      have hturn : s.turn log false .stop = s.close .stopped := if_pos h
      exact ⟨[(false, .stop)], by simp [SessionInput.ticks], Follows.turn s.inbound hturn⟩

theorem Follows.run (log : Log) (inputs : List SessionInput) :
    ∃ ts, ts.filter (·.2 = .tick) = inputs.flatMap SessionInput.ticks ∧
      Follows log .new (Session.run log inputs) ts := by
  suffices h : ∀ s, ∃ ts, ts.filter (·.2 = .tick) = inputs.flatMap SessionInput.ticks ∧
      Follows log s (inputs.foldl (Session.step log) s) ts from h .new
  induction inputs with
  | nil => exact fun s => ⟨[], rfl, rfl⟩
  | cons i inputs ih =>
    intro s
    obtain ⟨ts, hts, hstep⟩ := Follows.step log s i
    obtain ⟨ts', hts', hrun⟩ := ih (s.step log i)
    exact ⟨ts ++ ts', by rw [List.filter_append, hts, hts', List.flatMap_cons], hstep.trans hrun⟩

end Session
end AlarmKeypad.Replay
