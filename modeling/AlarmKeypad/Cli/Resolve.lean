import AlarmKeypad.Cli.Invocation
import AlarmKeypad.Config
import AlarmKeypad.Fault.Cli
/-!
The connection that the options of a command line and a configuration describe together.
-/

namespace AlarmKeypad.Cli

/-- The names of all profiles. -/
def availableProfiles (c : Config) : String :=
  if c.profiles.isEmpty then "(none)" else String.intercalate ", " (c.profiles.map Prod.fst)

namespace Options

/-- The profile that the options start from; `path` is where the configuration is. -/
def base (o : Options) (c : Config) (path : String) : Except CliFault Profile :=
  match c.active o.profile, o.host with
  | .error (.unknownProfile name), _ => .error (.profileNotFound name (availableProfiles c))
  | .error f, _ => .error (.ofConfig f)
  | .ok (some (_, p)), _ => .ok p
  | .ok none, some host => .ok (.ofHost host)
  | .ok none, none => .error (.noEndpoint path)

/-- The profile with what the options give in place of its fields. -/
def overlay (o : Options) (p : Profile) : Profile :=
  { p with
    host := o.host.getD p.host
    transport := o.transport.getD p.transport
    port := o.port.or p.port
    partition := o.partition.getD p.partition
    code := o.code.getD p.code }

def resolve (o : Options) (c : Config) (path : String) : Except CliFault Connection := do
  (o.overlay (← o.base c path)).resolve.mapError CliFault.ofConfig

end Options
end AlarmKeypad.Cli
