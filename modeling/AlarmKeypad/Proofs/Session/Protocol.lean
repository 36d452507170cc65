import AlarmKeypad.Proofs.Session.History
/-!
# The protocol of a keypad

What may happen after what, said of the events alone: a connection is opened, drained, published,
greeted, used, and ends in one of three ways. Every history of a keypad follows it
(`State.run_tracked`), so what the protocol keeps holds of every run.
-/

namespace AlarmKeypad.Session

/-- How far a keypad is on its way round. -/
inductive Stage where
  | away
  | dialing
  /-- Open; lines for an earlier connection are being dropped. -/
  | draining
  | drained
  /-- Published, but nothing has been handed over. -/
  | connected
  /-- The first line went over at the time given, and so many heartbeats since. -/
  | greeted (since pings : Nat)
  | failed
  | hungUp
  | closing
  /-- Dropped after the device hung up; not published yet. -/
  | lost
  /-- Dropped after it was closed; not published yet. -/
  | closed
  /-- Dropped because no heartbeat could be set. -/
  | crashed
deriving DecidableEq

namespace Stage

def published : Stage → ConnectionState
  | away => .disconnected
  | dialing | draining | drained => .connecting
  | connected | greeted .. | failed | hungUp | lost | crashed => .connected
  | closing | closed => .closing

def isOpen : Stage → Bool
  | draining | drained | connected | greeted .. | failed | hungUp | closing => true
  | _ => false

def isStanding : Stage → Bool
  | draining | drained | connected | greeted .. => true
  | _ => false

def isSilent : Stage → Bool
  | draining | drained | connected => true
  | _ => false

end Stage

/-- Where a history has led. -/
structure Track where
  stage : Stage
  /-- The number of connections so far; the last has this number. -/
  connection : Nat
  /-- The lines that have been queued and neither dropped nor handed over. -/
  waiting : List Ticket
  /-- Whether shutdown has been called. -/
  told : Bool

def Track.start : Track := ⟨.away, 0, [], false⟩

section
variable (k : KeypadSettings)

/-- A line that may be handed over now, and where its success leads: the first line of a
connection, a heartbeat whose time has come, or the line that has waited longest. -/
inductive Track.Hands : Track → Nat → Source → String → Track → Prop
  | greeting (n w b t) :
      Hands ⟨.connected, n, w, b⟩ t .greeting k.syncLine ⟨.greeted t 0, n, w, b⟩
  | heartbeat (since pings n w b t) (h : since + (pings + 1) * k.heartbeat ≤ t) :
      Hands ⟨.greeted since pings, n, w, b⟩ t .heartbeat k.pingLine
        ⟨.greeted since (pings + 1), n, w, b⟩
  | ticket (since pings n x w b t) :
      Hands ⟨.greeted since pings, n, x :: w, b⟩ t (.call x.call) x.line
        ⟨.greeted since pings, n, w, b⟩

/-- What an event does to a track; an event that no rule names cannot happen there. -/
inductive Track.Next : Track → Stamped → Track → Prop
  | called (g n w b t id r) :
      Next ⟨g, n, w, b⟩ ⟨t, .called id r⟩ ⟨g, n, w, b || decide (r = .shutdown)⟩
  | returned (q t id r) : Next q ⟨t, .returned id r⟩ q
  | spawned (q t) : Next q ⟨t, .spawned⟩ q
  | queued (g n w b t x) : Next ⟨g, n, w, b⟩ ⟨t, .queued x⟩ ⟨g, n, w ++ [x], b⟩
  | dial (n w b t) : Next ⟨.away, n, w, b⟩ ⟨t, .published .connecting⟩ ⟨.dialing, n, w, b⟩
  | attempt (n w b t a) : Next ⟨.dialing, n, w, b⟩ ⟨t, .attempted a⟩ ⟨.dialing, n, w, b⟩
  | refuse (n w b t) : Next ⟨.dialing, n, w, b⟩ ⟨t, .refused⟩ ⟨.dialing, n, w, b⟩
  | giveUp (n w b t) : Next ⟨.dialing, n, w, b⟩ ⟨t, .published .disconnected⟩ ⟨.away, n, w, b⟩
  | opens (n w b t) : Next ⟨.dialing, n, w, b⟩ ⟨t, .opened (n + 1)⟩ ⟨.draining, n + 1, w, b⟩
  | discard (n x w b t) : Next ⟨.draining, n, x :: w, b⟩ ⟨t, .stale x⟩ ⟨.draining, n, w, b⟩
  | drain (n b t) : Next ⟨.draining, n, [], b⟩ ⟨t, .drained n⟩ ⟨.drained, n, [], b⟩
  | connect (n w b t) : Next ⟨.drained, n, w, b⟩ ⟨t, .published .connected⟩ ⟨.connected, n, w, b⟩
  | hand {q q' t source line} (h : q.Hands k t source line q') :
      Next q ⟨t, .handed q.connection source line⟩ q'
  | fail {q q' t source line} (h : q.Hands k t source line q') :
      Next q ⟨t, .handFailed q.connection source line⟩ { q' with stage := .failed }
  | receive (since pings n w b t line) :
      Next ⟨.greeted since pings, n, w, b⟩ ⟨t, .received n line⟩ ⟨.greeted since pings, n, w, b⟩
  | changeMode (since pings n w b t c) :
      Next ⟨.greeted since pings, n, w, b⟩ ⟨t, .modeChanged c⟩ ⟨.greeted since pings, n, w, b⟩
  | fault (since pings n w b t) :
      Next ⟨.greeted since pings, n, w, b⟩ ⟨t, .faulted n⟩ ⟨.failed, n, w, b⟩
  | hangUp (since pings n w b t) :
      Next ⟨.greeted since pings, n, w, b⟩ ⟨t, .hungUp n⟩ ⟨.hungUp, n, w, b⟩
  | abandon (n w b t) : Next ⟨.failed, n, w, b⟩ ⟨t, .published .closing⟩ ⟨.closing, n, w, b⟩
  | stop (since pings n w t) :
      Next ⟨.greeted since pings, n, w, true⟩ ⟨t, .published .closing⟩ ⟨.closing, n, w, true⟩
  | closing (n w b t) : Next ⟨.closing, n, w, b⟩ ⟨t, .closing n⟩ ⟨.closing, n, w, b⟩
  | lose (n w b t) : Next ⟨.hungUp, n, w, b⟩ ⟨t, .dropped n⟩ ⟨.lost, n, w, b⟩
  | close (n w b t) : Next ⟨.closing, n, w, b⟩ ⟨t, .dropped n⟩ ⟨.closed, n, w, b⟩
  | crash (since n w b t) :
      Next ⟨.greeted since 0, n, w, b⟩ ⟨t, .dropped n⟩ ⟨.crashed, n, w, b⟩
  | part (n w b t) : Next ⟨.lost, n, w, b⟩ ⟨t, .published .disconnected⟩ ⟨.away, n, w, b⟩
  | leave (n w b t) : Next ⟨.closed, n, w, b⟩ ⟨t, .published .disconnected⟩ ⟨.away, n, w, b⟩

/-- A history that follows the protocol and has led to a track. -/
inductive Tracks : List Stamped → Track → Prop
  | start : Tracks [] .start
  | next {h q e q'} (past : Tracks h q) (step : q.Next k e q') : Tracks (e :: h) q'

end

variable {k : KeypadSettings}

/-- Every event of a history happened on a track that its past had led to. -/
theorem Tracks.at {h : List Stamped} {q : Track} (ht : Tracks k h q) {e : Stamped}
    {past : List Stamped} (he : e :: past <:+ h) :
    ∃ p p', Tracks k past p ∧ p.Next k e p' := by
  induction ht with
  | start => exact absurd (List.suffix_nil.mp he) (List.cons_ne_nil _ _)
  | next hp hn ih =>
    rcases List.suffix_cons_iff.mp he with heq | hs
    · obtain ⟨rfl, rfl⟩ := List.cons.inj heq
      exact ⟨_, _, hp, hn⟩
    · exact ih hs

/-- What has happened before an event is a history of the protocol too. -/
theorem Tracks.of_suffix {h past : List Stamped} {q : Track} (ht : Tracks k h q)
    (hs : past <:+ h) : ∃ p, Tracks k past p := by
  induction ht with
  | start => exact ⟨_, by rw [List.suffix_nil.mp hs]; exact .start⟩
  | next hp hn ih =>
    rcases List.suffix_cons_iff.mp hs with rfl | hs
    · exact ⟨_, .next hp hn⟩
    · exact ih hs

end AlarmKeypad.Session
