import AlarmKeypad.Text.Blank
import AlarmKeypad.Text.Numeral
/-!
Keypad commands, their tokens on the wire and their plain names.
-/

namespace AlarmKeypad

inductive Command where
  | disarm
  | stay
  | away
  | exit
  | chime
  /-- Leaves one zone out. -/
  | bypass (zone : UInt8)
  | panicAlarm
  | fireAlarm
  | auxAlarm
deriving DecidableEq

/-- Why a text is no command. -/
inductive Command.Fault where
  | unterminated
  | noZone
  | unknown
  | argument
deriving DecidableEq

def Command.Fault.message : Command.Fault → String
  | unterminated => "unterminated token"
  | noZone => "bypass needs a zone number, e.g. bypass:7"
  | unknown => "unknown command"
  | argument => "unexpected argument"

namespace Command

def label : Command → String
  | disarm => "DISARM"
  | stay => "STAY"
  | away => "AWAY"
  | exit => "EXIT"
  | chime => "CHIME"
  | bypass _ => "BYPASS"
  | panicAlarm => "PANIC_ALARM"
  | fireAlarm => "FIRE_ALARM"
  | auxAlarm => "AUX_ALARM"

/-- A zone in at least two digits. -/
def zoneText (zone : UInt8) : String :=
  if zone.toNat < 10 then "0" ++ Text.decimalString zone.toNat else Text.decimalString zone.toNat

/-- The label in angle brackets; a zone follows it. -/
def token : Command → String
  | bypass zone => "<BYPASS>" ++ zoneText zone
  | c => "<" ++ c.label ++ ">"

/-- The commands without an argument, by name. -/
def plain? (name : String) : Option Command :=
  match name with
  | "DISARM" => some disarm
  | "STAY" => some stay
  | "AWAY" => some away
  | "EXIT" => some exit
  | "CHIME" => some chime
  | "PANIC" | "PANIC_ALARM" => some panicAlarm
  | "FIRE" | "FIRE_ALARM" => some fireAlarm
  | "AUX" | "AUX_ALARM" => some auxAlarm
  | _ => none

/-- A name and what follows it: after a closing bracket if one is open, after a colon otherwise. -/
def splitName (cs : List Char) : Except Fault (List Char × List Char) :=
  match cs with
  | '<' :: r => match Text.splitOnce '>' r with
    | some p => .ok p
    | none => .error .unterminated
  | _ => .ok ((Text.splitOnce ':' cs).getD (cs, []))

def ofNameArg (name arg : List Char) : Except Fault Command :=
  if String.ofList name = "BYPASS" then
    match Text.bounded? 255 (Text.trim arg) with
    | some zone => .ok (bypass zone.toUInt8)
    | none => .error .noZone
  else match plain? (String.ofList name) with
    | none => .error .unknown
    | some c => if arg = [] then .ok c else .error .argument

/-- The command of a name or a token, in letters of either case and with blanks around it. -/
def parse (text : String) : Except Fault Command := do
  let (name, arg) ← splitName ((Text.trim text.toList).map Char.toUpper)
  ofNameArg name arg

end Command

/-- Actions that three taps confirm. -/
inductive AlarmAction where
  | panic
  | fire
  | aux
deriving DecidableEq

namespace AlarmAction

def all : List AlarmAction := [panic, fire, aux]

theorem mem_all (a : AlarmAction) : a ∈ all := by cases a <;> decide

def name : AlarmAction → String
  | panic => "panic"
  | fire => "fire"
  | aux => "aux"

def ofName? (n : String) : Option AlarmAction := all.find? fun a => a.name == n

def command : AlarmAction → Command
  | panic => .panicAlarm
  | fire => .fireAlarm
  | aux => .auxAlarm

end AlarmAction
end AlarmKeypad
