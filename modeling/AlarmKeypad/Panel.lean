import AlarmKeypad.Command
import AlarmKeypad.DisplayMode
/-!
What a panel shows in each display mode.
-/

namespace AlarmKeypad

/-- The class of a status, which gives the panel its color. -/
inductive StatusClass where
  | ready
  | notReady
  | armed
  | alarming
deriving DecidableEq

def StatusClass.name : StatusClass → String
  | ready => "ready"
  | notReady => "not_ready"
  | armed => "armed"
  | alarming => "alarming"

inductive PanelIcon where
  | houseWithKey
  | houseWithLock
  | houseWithWalker
deriving DecidableEq

def PanelIcon.name : PanelIcon → String
  | houseWithKey => "house_with_key"
  | houseWithLock => "house_with_lock"
  | houseWithWalker => "house_with_walker"

structure PanelButton where
  icon : PanelIcon
  command : Command
deriving DecidableEq

def PanelButton.label (b : PanelButton) : String := b.command.label

structure Panel where
  status : StatusClass
  icon : PanelIcon
  label : String
  primary : Option PanelButton
  secondary : Option PanelButton
deriving DecidableEq

namespace Panel

def disarmButton : PanelButton := ⟨.houseWithLock, .disarm⟩

def exitButton : PanelButton := ⟨.houseWithWalker, .exit⟩

def awayButton : PanelButton := ⟨.houseWithKey, .away⟩

def stayButton : PanelButton := ⟨.houseWithKey, .stay⟩

def disarmed (status : StatusClass) (label : String) : Panel :=
  ⟨status, .houseWithLock, label, some awayButton, some stayButton⟩

def armed (icon : PanelIcon) (label : String) (secondary : PanelButton) : Panel :=
  ⟨.armed, icon, label, some disarmButton, some secondary⟩

def alarming (label : String) : Panel :=
  ⟨.alarming, .houseWithKey, label, some disarmButton, some disarmButton⟩

end Panel

def DisplayMode.panel : DisplayMode → Panel
  | unknown => ⟨.notReady, .houseWithKey, "Unknown", none, none⟩
  | ready => .disarmed .ready "Ready"
  | notReady => .disarmed .notReady "Not Ready"
  | armedAway => .armed .houseWithKey "Armed (away)" Panel.exitButton
  | armedStay => .armed .houseWithKey "Armed (stay)" Panel.exitButton
  | armedNight => .armed .houseWithKey "Armed (night)" Panel.exitButton
  | armedAwayExit | armedStayExit | armedNightExit =>
    .armed .houseWithWalker "Armed (exit now)" Panel.disarmButton
  | alarming => .alarming "Alarming!"
  | fire => .alarming "Fire!"

/-- A button as JSON, with its keys in order. -/
def PanelButton.toJson (b : PanelButton) : Json.Value :=
  .object [("command", .string b.label), ("icon", .string b.icon.name)]

/-- A panel as JSON, with its keys in order. -/
def Panel.toJson (p : Panel) : Json.Value :=
  .object
    [("icon", .string p.icon.name), ("label", .string p.label),
      ("primary", p.primary.elim .null PanelButton.toJson),
      ("secondary", p.secondary.elim .null PanelButton.toJson), ("status", .string p.status.name)]

end AlarmKeypad
