import AlarmKeypad.Cli.Printer
import AlarmKeypad.Cli.Resolve
/-!
The commands that print where the configuration is and what is in effect.
-/

namespace AlarmKeypad.Cli

/-- What a command prints; `path` is where the configuration file is, `file` what is in it. -/
def ConfigTask.run (task : ConfigTask) (p : Printer) (path : String) (file : Option (List UInt8))
    (env : Variable.Environment) : Except CliFault String :=
  match task with
  | .path => .ok (p.line path)
  | .view => do
    let c ← (Config.load file env).mapError CliFault.ofConfig
    if c.profiles.isEmpty ∧ c.defaultProfile.isNone then
      .ok (p.line ("# no profiles configured (" ++ path ++ ")"))
    else
      let text ← c.render.mapError CliFault.ofConfig
      .ok (p.line (String.ofList (Text.trimEnd text)))

end AlarmKeypad.Cli
