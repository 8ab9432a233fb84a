import SocketGateway.Gateway
import SocketGateway.Hub

/-!
Contract: a server, which is a gateway over a hub.

Owns:
- the single steps of a session, each of which is atomic: taking a slot, authenticating, opening
  the socket, the connect event, inbound texts, heartbeats, closing, the disconnect event, and
  releasing the socket;
- what is answered to an inbound text.

Does not own: the order of the steps, or times.
-/

namespace SocketGateway

/-- A server. `app` is what the application's hooks and handlers act on beside the hub. -/
structure Server (App : Type) where
  gateway : Gateway (Hub × App)
  hub : Hub := {}
  app : App

namespace Server

variable {App : Type}

/-- What hooks and handlers act on. -/
def world (server : Server App) : Hub × App := (server.hub, server.app)

/-- The server after its gateway and its world changed. -/
def update (gateway : Gateway (Hub × App)) (world : Hub × App) : Server App :=
  ⟨gateway, world.1, world.2⟩

/-- Reserves a slot for a handshake, as far as the settings allow. -/
def reserve? (server : Server App) : Option (Server App) :=
  (server.hub.reserve? server.gateway.config.maxConnections).map fun hub =>
    { server with hub := hub }

def dropReservation (server : Server App) : Server App :=
  { server with hub := server.hub.dropReservation }

def authenticate (server : Server App) (request : Handshake) (fresh : CorrelationToken)
    (now : Nat) : Except GatewayError CorrelationToken × Server App :=
  let (answer, gateway, world) := server.gateway.authenticate request fresh now server.world
  (answer, update gateway world)

def openSocket (server : Server App) (id : ConnectionId) : Server App :=
  { server with hub := server.hub.openSocket id }

def connect (server : Server App) (token : CorrelationToken) (id : ConnectionId) (now : Nat) :
    Except ConnectError ClientId × Server App :=
  let (answer, gateway, world) :=
    server.gateway.connect (Hub.transport App) token (Hub.connection id) now server.world
  (answer, update gateway world)

def close (server : Server App) (id : ConnectionId) : Server App :=
  { server with hub := server.hub.disconnect id }

def disconnect (server : Server App) (id : ConnectionId) :
    Option (ClientId × String) × Server App :=
  let (departed, gateway, world) :=
    server.gateway.disconnect (Hub.transport App) (Hub.connection id) server.world
  (departed, update gateway world)

/-- Takes a socket that is gone off the hub. -/
def release (server : Server App) (id : ConnectionId) : Server App :=
  { server with hub := server.hub.release id }

/-- Queues a heartbeat; tells whether the queue is still there. -/
def ping (server : Server App) (id : ConnectionId) : Bool × Server App :=
  let (answer, hub) := server.hub.ping id
  (answer.isOk, { server with hub := hub })

/-- The response to a frame: what its handler answers, or the reason why none ran. -/
def respond (server : Server App) (id : ConnectionId) (frame : ClientFrame) :
    String × Server App :=
  let (answer, world) :=
    server.gateway.dispatch (Hub.connection id) frame.event frame.data server.world
  (match answer with
    | .ok response => response
    | .error cause => ackError cause.message,
    update server.gateway world)

/-- Takes an inbound text. A text that is no frame is ignored. A frame is dispatched, and the
response is queued under its acknowledgement number, if it has one. -/
def receive (server : Server App) (id : ConnectionId) (text : String) : Server App :=
  match ClientFrame.ofText? text with
  | none => server
  | some frame =>
    let (response, after) := server.respond id frame
    match frame.ack with
    | none => after
    | some number => { after with hub := (after.hub.sendAck id number response).2 }

def signal (server : Server App) (id : ClientId) (event : String) (data : Json) :
    Except GatewayError Unit × Server App :=
  let (answer, world) := server.gateway.signal (Hub.transport App) id event data server.world
  (answer, update server.gateway world)

end Server

end SocketGateway
