import AlarmKeypad.Config.Profile
import AlarmKeypad.Config.Variable
import AlarmKeypad.Text.Blank
import AlarmKeypad.Text.Utf8
/-!
Configurations: profiles by name, from a file and from variables that lie over it.
-/

namespace AlarmKeypad

structure Config where
  defaultProfile : Option String
  /-- The profiles in order of their names. -/
  profiles : List (String × Profile)
deriving DecidableEq

namespace Config

open Toml (Value)

def empty : Config := ⟨none, []⟩

/-! ### Reading -/

def profile? (m : String × Value) : Option (String × Profile) :=
  (Profile.ofValue? m.2).map (m.1, ·)

def profiles? : Option Value → Option (List (String × Profile))
  | none => some []
  | some (.table ms) => (ms.mapM profile?).map Bindings.sort
  | some _ => none

def ofValue? : Value → Option Config
  | .table ms => do
    let defaultProfile ← match ms.lookup "default_profile" with
      | none => some none
      | some v => v.string?.map some
    return ⟨defaultProfile, ← profiles? (ms.lookup "profiles")⟩
  | _ => none

/-- The value of a file; one that is absent is an empty table. -/
def fileValue? : Option (List UInt8) → Option Value
  | none => some (.table [])
  | some bytes => (Text.Utf8.decode? bytes).bind Value.parse?

def read? (file : Option (List UInt8)) (env : Variable.Environment) : Option Config := do
  ofValue? ((← Variable.settings? env).overlay (← fileValue? file))

/-- The configuration of a file and of the variables over it. -/
def load (file : Option (List UInt8)) (env : Variable.Environment) : Except ConfigFault Config :=
  match read? file env with
  | some c => .ok c
  | none => .error .load

/-- The configuration, or an empty one where there is a fault. -/
def loadOrEmpty (file : Option (List UInt8)) (env : Variable.Environment) : Config :=
  (read? file env).getD empty

/-! ### Writing -/

/-- The tables of profiles, with an empty line between two. -/
def writeProfiles : List (String × Profile) → Except ConfigFault (List Char)
  | [] => .ok (Toml.Statement.writeHeader ["profiles"])
  | [(name, p)] => p.write name
  | (name, p) :: r => do return (← p.write name) ++ '\n' :: (← writeProfiles r)

/-- The text of a configuration. -/
def render (c : Config) : Except ConfigFault (List Char) := do
  let profiles ← writeProfiles c.profiles
  return match c.defaultProfile with
    | none => profiles
    | some name => Toml.Statement.writeString "default_profile" name ++ '\n' :: profiles

def renderString (c : Config) : Except ConfigFault String := c.render.map String.ofList

/-! ### Use -/

/-- The profile that was asked for, or the default one if it exists. -/
def active (c : Config) : Option String → Except ConfigFault (Option (String × Profile))
  | some name => match c.profiles.lookup name with
    | some p => .ok (some (name, p))
    | none => .error (.unknownProfile name)
  | none =>
    .ok (c.defaultProfile.bind fun name => (c.profiles.lookup name).map (name, ·))

/-! ### The file -/

/-- A path below a directory. -/
def below (dir name : String) : String :=
  if dir.endsWith "/" then dir ++ name else dir ++ "/" ++ name

/-- The home that a table of accounts gives to the user with a number. -/
def accountHome? (accounts user : List Char) : Option String :=
  (Text.splitAll '\n' accounts).findSome? fun line =>
    match Text.splitAll ':' line with
    | [_, _, u, _, _, home, _] => if u = user then some (String.ofList home) else none
    | _ => none

/-- The home of the superuser. -/
def rootHome : String := "/root"

/-- The home of the user: what a variable says, or else that of the account. -/
def home (env : Variable.Environment) (account : String := rootHome) : String :=
  ((env.lookup "HOME").filter (!·.isEmpty)).getD account

/-- The directory of configurations: the one that a variable names by an absolute path, or one in
the home of the user. -/
def directory (env : Variable.Environment) (account : String := rootHome) : String :=
  ((env.lookup "XDG_CONFIG_HOME").filter (·.startsWith "/")).getD
    (below (home env account) ".config")

/-- Where the configuration file is. -/
def path (env : Variable.Environment) (account : String := rootHome) : String :=
  below (below (directory env account) "ad2kp") "config.toml"

end Config
end AlarmKeypad
