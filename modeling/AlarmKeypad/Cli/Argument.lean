import AlarmKeypad.Cli.Place
import AlarmKeypad.Endpoint
import AlarmKeypad.SocketAddress
/-!
The arguments of the command line: their names, their variables, and the texts they take.
-/

namespace AlarmKeypad.Cli

inductive OutputFormat where
  | text
  | json
deriving DecidableEq

namespace OutputFormat

def name : OutputFormat → String
  | text => "text"
  | json => "json"

def ofName? (n : String) : Option OutputFormat :=
  if n = "text" then some text else if n = "json" then some json else none

end OutputFormat

inductive ColorMode where
  /-- Color where the output is a terminal. -/
  | auto
  | always
  | never
deriving DecidableEq

namespace ColorMode

def name : ColorMode → String
  | auto => "auto"
  | always => "always"
  | never => "never"

def ofName? (n : String) : Option ColorMode :=
  if n = "auto" then some auto
  else if n = "always" then some always
  else if n = "never" then some never
  else none

end ColorMode

inductive Shell where
  | bash
  | elvish
  | fish
  | powershell
  | zsh
deriving DecidableEq

namespace Shell

def name : Shell → String
  | bash => "bash"
  | elvish => "elvish"
  | fish => "fish"
  | powershell => "powershell"
  | zsh => "zsh"

def all : List Shell := [bash, elvish, fish, powershell, zsh]

def ofName? (n : String) : Option Shell := all.find? fun s => s.name = n

end Shell

inductive Argument where
  | profile
  | host
  | transport
  | port
  | partition
  | code
  | output
  | color
  | verbose
  | interactive
  | timeout
  | raw
  /-- The command to send, by its place. -/
  | command
  /-- The shell to complete for, by its place. -/
  | shell
  /-- The log of a replay server, by its place. -/
  | log
  /-- Where a replay server listens. -/
  | replayPort
  | bind
  /-- The time between its lines. -/
  | interval
  | help
  | version
deriving DecidableEq

/-- Why a text is no number or no address. -/
inductive ValueFault where
  | emptyNumber
  | notDigits
  | tooLarge
  | tooSmall
  | outOfRange (n : Int) (max : Nat)
  | notAddress
deriving DecidableEq

def ValueFault.message : ValueFault → String
  | emptyNumber => "cannot parse integer from empty string"
  | notDigits => "invalid digit found in string"
  | tooLarge => "number too large to fit in target type"
  | tooSmall => "number too small to fit in target type"
  | outOfRange n max =>
    (if n < 0 then "-" else "") ++ Text.decimalString n.natAbs ++ " is not in 0..=" ++
      Text.decimalString max
  | notAddress => "invalid IP address syntax"

/-- What a command line asks for in place of its task, or what is wrong with it. -/
inductive UsageFault.Kind where
  /-- The help text, at length or in short. -/
  | displayHelp (long : Bool)
  | displayVersion
  /-- Nothing was asked for. -/
  | helpOnMissing
  | missingSubcommand
  | invalidSubcommand (word : String)
  | unknownArgument (word : String)
  | missingArgument (a : Argument)
  /-- An argument that was given twice. -/
  | conflict (a : Argument)
  /-- A text that is not one of those allowed, or no text. -/
  | invalidValue (a : Argument) (s : String)
  | valueValidation (a : Argument) (s : String) (f : ValueFault)
  /-- A text for an argument that takes none. -/
  | tooManyValues (a : Argument) (s : String)
deriving DecidableEq

/-- Why a command line is not carried out, and the place where this shows. -/
structure UsageFault where
  place : Place
  kind : UsageFault.Kind
deriving DecidableEq

/-- Help and version are what was asked for; everything else is wrong usage. -/
def UsageFault.exitCode (f : UsageFault) : Nat :=
  match f.kind with
  | .displayHelp _ | .displayVersion => 0
  | _ => 2

namespace Argument

/-- The arguments that any level takes, in the order of their variables. -/
def globals : List Argument :=
  [profile, host, transport, port, partition, code, output, color, verbose]

/-- The name after two hyphens; an argument by its place has none. -/
def long? : Argument → Option String
  | profile => some "profile"
  | host => some "host"
  | transport => some "transport"
  | port => some "port"
  | partition => some "partition"
  | code => some "code"
  | output => some "output"
  | color => some "color"
  | verbose => some "verbose"
  | interactive => some "interactive"
  | timeout => some "timeout"
  | raw => some "raw"
  | command | shell | log => none
  | replayPort => some "port"
  | bind => some "bind"
  | interval => some "interval-ms"
  | help => some "help"
  | version => some "version"

/-- The letter after one hyphen. -/
def short? : Argument → Option Char
  | profile => some 'p'
  | host => some 'H'
  | transport => some 't'
  | output => some 'o'
  | verbose => some 'v'
  | interactive => some 'i'
  | help => some 'h'
  | version => some 'V'
  | _ => none

/-- The environment variable that stands in for the argument. -/
def variableName? : Argument → Option String
  | profile => some "AD2KP_PROFILE"
  | host => some "AD2KP_HOST"
  | transport => some "AD2KP_TRANSPORT"
  | port => some "AD2KP_PORT"
  | partition => some "AD2KP_PARTITION"
  | code => some "AD2KP_CODE"
  | output => some "AD2KP_OUTPUT"
  | _ => none

/-- Whether a text belongs to the argument. -/
def takesValue : Argument → Bool
  | verbose | interactive | raw | help | version => false
  | _ => true

/-- A number from 0 to `max`, with a sign. -/
def signed? (max : Nat) (s : String) : Option Nat :=
  match s.toList with
  | '-' :: r => (Text.natural? r).filter (· = 0)
  | r => Text.bounded? max r

def maxDuration : Nat := UInt64.size - 1

/-- A length of time, which takes no minus sign. -/
def duration? (s : String) : Option Nat := Text.bounded? maxDuration s.toList

/-- Why a text is no number with a sign from 0 to `max`. -/
def signedFault? (max : Nat) (s : String) : Option ValueFault :=
  if (signed? max s).isSome then none
  else match s.toList with
    | [] => some .emptyNumber
    | '-' :: r => match Text.natural? r with
      | none => some .notDigits
      | some n => some (if n ≤ UInt64.size / 2 then .outOfRange (-n) max else .tooSmall)
    | '+' :: r | r => match Text.natural? r with
      | none => some .notDigits
      | some n => some (if n < UInt64.size / 2 then .outOfRange n max else .tooLarge)

/-- Why a text is no length of time. -/
def durationFault? (s : String) : Option ValueFault :=
  if (duration? s).isSome then none
  else match s.toList with
    | [] => some .emptyNumber
    | '+' :: r | r => some (if (Text.natural? r).isSome then .tooLarge else .notDigits)

/-- What is wrong with a text for the argument. -/
def fault? (a : Argument) (s : String) : Option UsageFault.Kind :=
  let choice (known : Bool) : Option UsageFault.Kind :=
    if known then none else some (.invalidValue a s)
  let value (f : Option ValueFault) : Option UsageFault.Kind := f.map (.valueValidation a s)
  match a with
  | transport => choice (TransportKind.ofName? s).isSome
  | output => choice (OutputFormat.ofName? s).isSome
  | color => choice (ColorMode.ofName? s).isSome
  | shell => choice (Shell.ofName? s).isSome
  | port | replayPort => value (signedFault? (UInt16.size - 1) s)
  | bind => value (if (IpAddress.parse? s.toList).isSome then none else some .notAddress)
  | log => choice !s.isEmpty
  | partition | code => value (signedFault? (UInt32.size - 1) s)
  | timeout | interval => value (durationFault? s)
  | _ => none

end Argument
end AlarmKeypad.Cli
