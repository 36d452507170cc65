import AlarmKeypad.Cli.Argument
import AlarmKeypad.Gesture
import AlarmKeypad.Panel
import AlarmKeypad.Session.State
/-!
What commands print: lines for a reader, or one JSON object a line.
-/

namespace AlarmKeypad.Cli

/-- A moment as texts: the time of day, and date and time together. -/
structure Stamp where
  clock : String
  instant : String

/-- Whether to print in color: on a terminal unless a variable forbids it, always, or never. -/
def ColorMode.isColored (c : ColorMode) (terminal forbidden : Bool) : Bool :=
  match c with
  | .always => true
  | .never => false
  | .auto => terminal && !forbidden

structure Printer where
  format : OutputFormat
  color : Bool
  /-- Whether the terminal is raw, so that a line feed needs a carriage return. -/
  raw : Bool

namespace Printer

/-- A text between the codes that turn a color on and off. -/
def green (s : String) : String := "\x1b[32m" ++ s ++ "\x1b[39m"

def yellow (s : String) : String := "\x1b[33m" ++ s ++ "\x1b[39m"

def blue (s : String) : String := "\x1b[34m" ++ s ++ "\x1b[39m"

def red (s : String) : String := "\x1b[31m" ++ s ++ "\x1b[39m"

def bold (s : String) : String := "\x1b[1m" ++ s ++ "\x1b[0m"

def dim (s : String) : String := "\x1b[2m" ++ s ++ "\x1b[0m"

def paint (p : Printer) (c : StatusClass) (s : String) : String :=
  if p.color then
    match c with
    | .ready => green s
    | .notReady => yellow s
    | .armed => bold (blue s)
    | .alarming => bold (red s)
  else s

def clock (p : Printer) (now : Stamp) : String := if p.color then dim now.clock else now.clock

/-- The label of a panel, and its buttons by their numbers. -/
def panelLine (m : DisplayMode) : String :=
  let panel := m.panel
  let buttons := (panel.primary.toList ++ panel.secondary.toList).map PanelButton.label
  if buttons.isEmpty then panel.label
  else panel.label ++ " [1:" ++ String.intercalate " 2:" buttons ++ "]"

/-- The mode, its panel, and the text of the panel's display. -/
def mode (p : Printer) (m : DisplayMode) (alpha : Option String) : String :=
  match p.format with
  | .json =>
    Json.Value.text (.object
      [("alpha", alpha.elim .null .string), ("mode", .string m.name), ("panel", m.panel.toJson)])
  | .text =>
    let line := p.paint m.panel.status m.name ++ "  " ++ panelLine m
    match alpha with
    | none => line
    | some a => if a.isEmpty then line else line ++ "\n" ++ Text.trimEndString a

def connection (p : Printer) (now : Stamp) (s : ConnectionState) : String :=
  match p.format with
  | .json =>
    Json.Value.text (.object
      [("state", .string s.name), ("ts", .string now.instant), ("type", .string "connection")])
  | .text =>
    let label := match s with
      | .connected => p.paint .ready s.name
      | .closing | .disconnected => p.paint .notReady s.name
      | .connecting => s.name
    p.clock now ++ " connection " ++ label

def change (p : Printer) (now : Stamp) (c : ModeChange) : String :=
  match p.format with
  | .json =>
    Json.Value.text (.object
      [("from", .string c.before.name), ("panel", c.after.panel.toJson),
        ("to", .string c.after.name), ("ts", .string now.instant), ("type", .string "mode")])
  | .text =>
    p.clock now ++ " mode " ++ c.before.name ++ " -> " ++
      p.paint c.after.panel.status c.after.name ++ "  " ++ panelLine c.after

/-- The progress of an alarm: its name and the taps of it. -/
def progress : Confirmation → String × Nat
  | .pending n => ("pending", n)
  | .confirmed => ("confirmed", tapsToConfirm)
  | .cancelled => ("cancelled", 0)

def gesture (p : Printer) (now : Stamp) (a : AlarmAction) (c : Confirmation) : String :=
  match p.format with
  | .json =>
    let (state, count) := progress c
    Json.Value.text (.object
      [("action", .string a.name), ("count", .int count), ("state", .string state),
        ("ts", .string now.instant), ("type", .string "gesture")])
  | .text =>
    let text := match c with
      | .pending n =>
        a.name ++ " " ++ Text.decimalString n ++ "/" ++ Text.decimalString tapsToConfirm
      | .confirmed =>
        p.paint .alarming (a.name ++ " confirmed, sending " ++ a.command.token)
      | .cancelled => a.name ++ " cancelled"
    p.clock now ++ " gesture " ++ text

/-- A text with a carriage return in front of every line feed. -/
def withReturns (cs : List Char) : List Char :=
  cs.flatMap fun c => if c = '\n' then ['\r', '\n'] else [c]

/-- A line as it is written, with its end. -/
def line (p : Printer) (s : String) : String :=
  if p.raw then String.ofList (withReturns s.toList ++ ['\r', '\n']) else s ++ "\n"

end Printer
end AlarmKeypad.Cli
