import SocketGateway.ClientRegistry
import SocketGateway.Config
import SocketGateway.Frame
import SocketGateway.Http.Request
import SocketGateway.Time.Rfc3339

/-!
Contract: the paths of a server and what plain requests to them are answered.

Owns:
- the paths, which start with the application's name except for the health check;
- the bodies of the listings;
- the statuses of other methods and paths.

Does not own: the upgrade of a connection.
-/

namespace SocketGateway.Http

/-- What stands at a path. -/
inductive Endpoint where
  | health
  | counts
  /-- The idle clients, those first that are idle longest. -/
  | idle
  | socket
deriving DecidableEq, Repr

def Endpoint.path (config : Config) : Endpoint → String
  | .health => "/api/health"
  | .counts => "/" ++ config.appName ++ "/clients/counts"
  | .idle => "/" ++ config.appName ++ "/clients/idle"
  | .socket => config.socketPath

/-- The endpoint at a path, exactly. -/
def Endpoint.ofPath? (config : Config) (path : String) : Option Endpoint :=
  [Endpoint.health, .counts, .idle, .socket].find? fun endpoint => endpoint.path config = path

/-- An answer: its status, and its body if it has one. -/
structure Response where
  status : Nat
  body : Option Json := none

def countsBody (clients : ClientRegistry) : Json :=
  .object (clients.counts.toList.map fun entry => (entry.1, .ofNat entry.2))

def idleNotice (entry : ClientId × Int64) : IdleNotice :=
  ⟨entry.1.text, Time.rfc3339 entry.2⟩

def idleBody (clients : ClientRegistry) : Json :=
  .array (clients.idleEntries.map fun entry =>
    let notice := idleNotice entry
    .ofFields [("client_id", .string notice.clientId), ("idle_since", .string notice.idleSince)])

/-- The body of an endpoint; sockets have none. -/
def Endpoint.body (clients : ClientRegistry) : Endpoint → Option Json
  | .health => some (.ofFields [("status", .string "ok")])
  | .counts => some (countsBody clients)
  | .idle => some (idleBody clients)
  | .socket => none

/-- Answers a request for an endpoint that asks for no upgrade. -/
def Endpoint.respond (clients : ClientRegistry) (method : String) (endpoint : Endpoint) :
    Response :=
  match endpoint.body clients with
  | none => ⟨if method = "GET" then 400 else 405, none⟩
  | some body =>
    if method = "GET" then ⟨200, some body⟩
    else if method = "HEAD" then ⟨200, none⟩
    else ⟨405, none⟩

/-- Answers a request that asks for no upgrade. -/
def respond (config : Config) (clients : ClientRegistry) (method target : String) : Response :=
  if isTarget target then
    match Endpoint.ofPath? config (pathOf target) with
    | none => ⟨404, none⟩
    | some endpoint => endpoint.respond clients method
  else ⟨400, none⟩

end SocketGateway.Http
