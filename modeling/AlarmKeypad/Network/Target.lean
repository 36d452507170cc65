import AlarmKeypad.Connector
/-!
Where on the network an endpoint is.
-/

namespace AlarmKeypad.Network

structure Target where
  host : String
  port : UInt16
  /-- The host and the port as a web server is told them. -/
  authority : String
  /-- What a web server is asked for. -/
  resource : String
deriving DecidableEq

namespace Target

def ofUrl? (u : Url) : Option Target := do
  let host ← u.host
  let port ← u.effectivePort?
  let authority := host.text ++ u.port.elim [] fun p => ':' :: Text.decimal p
  let resource := u.path ++ u.query.elim [] fun q => '?' :: q
  return ⟨String.ofList host.text, port.toUInt16, String.ofList authority, String.ofList resource⟩

def ofEndpoint? (e : Endpoint) : Option Target :=
  match e.transport with
  | .tcp => e.port.map fun p => ⟨e.host, p, Endpoint.authority e.host e.port, ""⟩
  | .webSocket => (webSocketUrl e.host e.port).toOption.bind ofUrl?

end Target
end AlarmKeypad.Network
