import AlarmKeypad.Json.Reader
import AlarmKeypad.Json.Printer
/-!
Snapshots: the state of a partition as the device reports it, one JSON object a line.

An object is read by looking its typed keys up, so the order of its members makes no difference; a
typed key that occurs twice, under either of its spellings, is refused. All other members are kept
in order of their keys.
-/

namespace AlarmKeypad

/-- What a device reports as true or false. -/
inductive Flag where
  | ready
  | armedAway
  | armedStay
  | alarmSounding
  | fireAlarm
  | exitNow
  | chimeOn
  | acPower
  | batteryLow
  | zoneBypassed
  | entryDelayOff
  | perimeterOnly
  | programming
  | systemIssue
deriving DecidableEq

namespace Flag

def key : Flag → String
  | ready => "ready"
  | armedAway => "armed_away"
  | armedStay => "armed_stay"
  | alarmSounding => "alarm_sounding"
  | fireAlarm => "fire_alarm"
  | exitNow => "exit_now"
  | chimeOn => "chime_on"
  | acPower => "ac_power"
  | batteryLow => "battery_low"
  | zoneBypassed => "zone_bypassed"
  | entryDelayOff => "entry_delay_off"
  | perimeterOnly => "perimeter_only"
  | programming => "programming"
  | systemIssue => "system_issue"

/-- The flags that are written before the text of the display. -/
def beforeText : List Flag := [ready, armedAway, armedStay, alarmSounding, fireAlarm, exitNow]

/-- The flags that are written after it. -/
def afterText : List Flag :=
  [chimeOn, acPower, batteryLow, zoneBypassed, entryDelayOff, perimeterOnly, programming,
    systemIssue]

def all : List Flag := beforeText ++ afterText

theorem mem_all (f : Flag) : f ∈ all := by cases f <;> decide

end Flag

structure Snapshot where
  flag : Flag → Bool
  /-- The last text on the alpha display. -/
  alpha : String
  /-- The tag that the sender attached. -/
  event : Option String
  /-- All other members, in order of keys. -/
  extra : List Json.Member

namespace Snapshot

theorem eq_iff (s t : Snapshot) :
    s = t ↔ (∀ f ∈ Flag.all, s.flag f = t.flag f) ∧ s.alpha = t.alpha ∧ s.event = t.event ∧
      s.extra = t.extra := by
  constructor
  · rintro rfl
    simp
  · intro ⟨h, ha, he, hx⟩
    cases s
    cases t
    simp_all only [Snapshot.mk.injEq, and_true]
    exact funext fun f => h f (Flag.mem_all f)

instance : DecidableEq Snapshot := fun s t => decidable_of_iff _ (eq_iff s t).symm

/-- The text of the display while the device has seen nothing of the panel. -/
def unknownText : String := "Unknown"

def isUnknown (s : Snapshot) : Bool := s.alpha == unknownText

def alphaKey : String := "last_alpha_message"

def eventKey : String := "event"

/-- A second spelling of `armed_stay`. -/
def armedHomeKey : String := "armed_home"

/-- The spelling under which a key is looked up. -/
def canonicalKey (k : String) : String := if k = armedHomeKey then Flag.armedStay.key else k

def typedKeys : List String := Flag.all.map Flag.key ++ [alphaKey, eventKey]

def isTyped (k : String) : Bool := typedKeys.contains (canonicalKey k)

/-- The members with typed keys, in the spelling of the fields. -/
def typedMembers (members : List Json.Member) : List Json.Member :=
  (members.filter fun m => isTyped m.1).map fun m => (canonicalKey m.1, m.2)

def readFlag? (typed : List Json.Member) (f : Flag) : Option Bool :=
  match typed.lookup f.key with
  | none => some false
  | some (.bool b) => some b
  | some _ => none

def readAlpha? (typed : List Json.Member) : Option String :=
  match typed.lookup alphaKey with
  | none => some ""
  | some (.string s) => some s
  | some _ => none

def readEvent? (typed : List Json.Member) : Option (Option String) :=
  match typed.lookup eventKey with
  | none => some none
  | some .null => some none
  | some (.string s) => some (some s)
  | some _ => none

/-- The snapshot with these members. -/
def ofMembers? (members : List Json.Member) : Option Snapshot := do
  let typed := typedMembers members
  if (typed.map Prod.fst).Nodup then
    let values ← Flag.all.mapM fun f => (readFlag? typed f).map fun b => (f, b)
    let alpha ← readAlpha? typed
    let event ← readEvent? typed
    let extra := members.filter fun m => !isTyped m.1
    some
      { flag := fun f => (values.lookup f).getD false
        alpha
        event
        extra := Bindings.sort (Json.Value.sortedMembers extra) }
  else none

/-- The snapshot that a JSON text spells. -/
def parse? (cs : List Char) : Option Snapshot := do
  match ← Json.Value.parse? cs with
  | .object members => ofMembers? members
  | _ => none

def flagMembers (s : Snapshot) (fs : List Flag) : List Json.Member :=
  fs.map fun f => (f.key, .bool (s.flag f))

/-- All fields, then the other members. -/
def members (s : Snapshot) : List Json.Member :=
  s.flagMembers Flag.beforeText ++ [(alphaKey, .string s.alpha)] ++
    s.flagMembers Flag.afterText ++ [(eventKey, s.event.elim .null .string)] ++ s.extra

def text (s : Snapshot) : String := (Json.Value.object s.members).text

end Snapshot
end AlarmKeypad
