import AlarmKeypad.Snapshot
/-!
Display modes, and the rule that takes a snapshot to one of them.

An alarm comes first, so that no other flag masks it.
-/

namespace AlarmKeypad

inductive DisplayMode where
  | unknown
  | ready
  | notReady
  | armedAway
  | armedAwayExit
  | armedStay
  | armedStayExit
  | armedNight
  | armedNightExit
  | alarming
  | fire
deriving DecidableEq

namespace DisplayMode

def all : List DisplayMode :=
  [unknown, ready, notReady, armedAway, armedAwayExit, armedStay, armedStayExit, armedNight,
    armedNightExit, alarming, fire]

theorem mem_all (m : DisplayMode) : m ∈ all := by cases m <;> decide

def name : DisplayMode → String
  | unknown => "unknown"
  | ready => "ready"
  | notReady => "not_ready"
  | armedAway => "armed_away"
  | armedAwayExit => "armed_away_exit"
  | armedStay => "armed_stay"
  | armedStayExit => "armed_stay_exit"
  | armedNight => "armed_night"
  | armedNightExit => "armed_night_exit"
  | alarming => "alarming"
  | fire => "fire"

def ofName? (n : String) : Option DisplayMode := all.find? fun m => m.name == n

def ofState (s : Snapshot) : DisplayMode :=
  if s.flag .alarmSounding then alarming
  else if s.flag .fireAlarm then fire
  else if s.flag .ready then ready
  else if s.flag .armedAway then if s.flag .exitNow then armedAwayExit else armedAway
  else if s.flag .armedStay then if s.flag .exitNow then armedStayExit else armedStay
  else if s.isUnknown then unknown
  else notReady

/-- The mode of the last snapshot, if there is one. -/
def ofSnapshot : Option Snapshot → DisplayMode
  | none => unknown
  | some s => ofState s

end DisplayMode

/-- A change of the display mode. -/
structure ModeChange where
  before : DisplayMode
  after : DisplayMode
deriving DecidableEq

/-- The mode after a snapshot, and the change if there is one. -/
def DisplayMode.observe (current : DisplayMode) (s : Option Snapshot) :
    DisplayMode × Option ModeChange :=
  let next := ofSnapshot s
  (next, if next = current then none else some ⟨current, next⟩)

end AlarmKeypad
