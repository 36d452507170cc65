import AlarmKeypad.Cli.Argument
import AlarmKeypad.Config.Variable
/-!
Reading a command line. Each subcommand opens a level, which has arguments of its own beside those
of every level; the levels are kept innermost first.

A text that follows its argument as a word of its own is looked at only when the next argument
begins or the line ends, so a fault of a later word can come first.
-/

namespace AlarmKeypad.Cli

namespace Place

/-- The arguments of the place alone. -/
def own : Place → List Argument
  | watch => [.interactive]
  | mode => [.timeout]
  | send => [.raw, .timeout]
  | replay => [.replayPort, .interval, .bind, .verbose]
  | _ => []

/-- The arguments that the place shares with all others on its command line. -/
def shared : Place → List Argument
  | replay => []
  | _ => Argument.globals

/-- All arguments with a name. -/
def arguments (p : Place) : List Argument := p.own ++ p.shared ++ [.help, .version]

/-- The argument without a name, which is required. -/
def positional? : Place → Option Argument
  | send => some .command
  | completions => some .shell
  | replay => some .log
  | _ => none

end Place

structure Level where
  place : Place
  /-- What was given, the last first. An argument without a text has an empty one. -/
  given : List (Argument × String)
  /-- The argument that was read last, and its text if that has been read. -/
  pending : Option (Argument × Option String)
  /-- Whether all further words are texts. -/
  wordsOnly : Bool

namespace Level

def new (place : Place) : Level := ⟨place, [], none, false⟩

def has (l : Level) (a : Argument) : Bool := l.given.any (·.1 == a)

def fail {α : Type} (l : Level) (k : UsageFault.Kind) : Except UsageFault α := .error ⟨l.place, k⟩

/-- Takes an argument with its text. -/
def take (l : Level) (a : Argument) (s : Option String) : Except UsageFault Level :=
  match a, s with
  | .help, _ => l.fail (.displayHelp true)
  | .version, _ => l.fail .displayVersion
  | .verbose, _ => .ok { l with given := (a, "") :: l.given }
  | a, some s =>
    if l.has a then l.fail (.conflict a)
    else match a.fault? s with
      | some k => l.fail k
      | none => .ok { l with given := (a, s) :: l.given }
  | a, none =>
    if a.takesValue then l.fail (.invalidValue a "")
    else if l.has a then l.fail (.conflict a)
    else .ok { l with given := (a, "") :: l.given }

/-- Takes the argument that waits. -/
def settle (l : Level) : Except UsageFault Level :=
  match l.pending with
  | none => .ok l
  | some (a, s) => { l with pending := none }.take a s

/-- Whether the next word is the text of an argument. -/
def awaitsText (l : Level) : Bool :=
  match l.pending with
  | some (_, none) => true
  | _ => false

/-- Takes an argument by its name, with the text attached to it. -/
def takeNamed (l : Level) (a : Argument) (attached : Option String) : Except UsageFault Level := do
  let l ← l.settle
  if a.takesValue ∧ attached.isNone then .ok { l with pending := some (a, none) }
  else l.take a attached

/-- Takes a word with two hyphens in front. -/
def takeLong (l : Level) (cs : List Char) : Except UsageFault Level :=
  let (name, attached) := match Text.splitOnce '=' cs with
    | some (n, v) => (String.ofList n, some (String.ofList v))
    | none => (String.ofList cs, none)
  match l.place.arguments.find? fun a => a.long? == some name with
  | none => l.fail (.unknownArgument ("--" ++ name))
  | some a =>
    if a.takesValue || attached.isNone then l.takeNamed a attached
    else l.fail (.tooManyValues a (attached.getD ""))

/-- Takes letters after one hyphen: arguments without a text, and at most one with a text, which may
follow at once. -/
def takeShort (l : Level) : List Char → Except UsageFault Level
  | [] => .ok l
  | c :: r =>
    match l.place.arguments.find? fun a => a.short? == some c with
    | none => l.fail (.unknownArgument (String.ofList ['-', c]))
    | some .help => do (← l.settle).fail (.displayHelp false)
    | some a =>
      if a.takesValue then
        l.takeNamed a (match r with
          | [] => none
          | '=' :: v => some (String.ofList v)
          | v => some (String.ofList v))
      else do (← l.takeNamed a none).takeShort r

/-- Takes a word in its place. -/
def takeWord (l : Level) (s : String) : Except UsageFault Level :=
  match l.place.positional? with
  | none =>
    if l.place.hasSubcommands ∧ ¬(l.wordsOnly ∧ (s = "help" ∨ (l.place.subcommand? s).isSome)) then
      l.fail (.invalidSubcommand s)
    else l.fail (.unknownArgument s)
  | some a =>
    if l.has a ∨ l.pending.any (·.1 == a) then l.fail (.unknownArgument s)
    else do
      let l ← l.settle
      .ok { l with pending := some (a, some s) }

/-- Takes a word that is no subcommand. -/
def step (l : Level) (s : String) : Except UsageFault Level :=
  if l.wordsOnly then l.takeWord s
  else match s.toList with
    | ['-', '-'] => .ok { l with wordsOnly := true }
    | '-' :: '-' :: r => l.takeLong r
    | '-' :: c :: r => l.takeShort (c :: r)
    | _ => match l.pending with
      | some (a, none) => .ok { l with pending := some (a, some s) }
      | _ => l.takeWord s

/-- The arguments that variables stand in for, where they were not given. -/
def standIns (l : Level) (env : Variable.Environment) : Except UsageFault (List Argument) :=
  (l.place.shared.filter fun a => !l.has a).filterMapM fun a =>
    match a.variableName?.bind fun n => env.lookup n with
    | none => .ok none
    | some s => match a.fault? s with
      | some k => l.fail k
      | none => .ok (some a)

/-- Ends a level; `inner` says that a subcommand was read. -/
def finish (l : Level) (env : Variable.Environment) (inner : Bool) : Except UsageFault Level := do
  let l ← l.settle
  let standIns ← l.standIns env
  if l.place.hasSubcommands ∧ !inner then
    l.fail (if l.given.isEmpty ∧ standIns.isEmpty then .helpOnMissing else .missingSubcommand)
  else match l.place.positional?.filter fun a => !l.has a with
    | some a => l.fail (.missingArgument a)
    | none => .ok l

/-- Help for the subcommand that the words lead to. -/
def helpFor (place : Place) : List String → UsageFault
  | [] => ⟨place, .displayHelp true⟩
  | s :: r =>
    match place.subcommand? s with
    | some p => helpFor p r
    | none =>
      ⟨place,
        if s = "help" ∧ place.hasSubcommands ∧ r = [] then .displayHelp true
        else .invalidSubcommand s⟩

/-- The levels of all words, the innermost first. -/
def readWords (l : Level) (outer : List Level) : List String → Except UsageFault (List Level)
  | [] => .ok (l :: outer)
  | s :: r =>
    if l.wordsOnly || l.awaitsText then do readWords (← l.step s) outer r
    else match l.place.subcommand? s with
      | some p => readWords (.new p) (l :: outer) r
      | none =>
        if s = "help" ∧ l.place.hasSubcommands then .error (helpFor l.place r)
        else do readWords (← l.step s) outer r

/-- Ends the levels from the innermost outwards. -/
def finishAll (env : Variable.Environment) : Bool → List Level → Except UsageFault (List Level)
  | _, [] => .ok []
  | inner, l :: outer => do
    let l ← l.finish env inner
    return l :: (← finishAll env true outer)

/-- The levels of a command line that begins at `place`, the innermost first. -/
def read (place : Place) (args : List String) (env : Variable.Environment) :
    Except UsageFault (List Level) := do
  finishAll env false (← readWords (.new place) [] args)

end Level
end AlarmKeypad.Cli
