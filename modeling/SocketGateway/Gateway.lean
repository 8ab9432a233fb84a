import SocketGateway.Authentication
import SocketGateway.RoomRegistry
import SocketGateway.Signaling
import SocketGateway.Time.Clock

/-!
Contract: the gateway between a transport and an application.

Owns:
- the settings, the registries, the handover of handshakes and the handlers of one gateway;
- the events in the life of a connection: authentication, connect, disconnect, and inbound events;
- the application's hooks and when each of them runs.

The world is what transport, hooks and handlers act on. Times of the handover and fresh tokens come
from the caller; idle times come from the gateway's clock.

Does not own: sockets, frames, or how many connections there may be.
-/

namespace SocketGateway

/-- What an application decides. A missing hook decides nothing. A hook acts on the world only: it
does not call back into the registries of the gateway that runs it. -/
structure Hooks (World : Type) where
  /-- Turns a token into a client's id and option, or says why not. -/
  authenticate : Option (String → World → Except String (String × String) × World) := none
  /-- Is told of a client that came online, and may refuse it. -/
  connect : Option (ClientId → String → World → Except String Unit × World) := none
  /-- Is told of a client that left. -/
  disconnect : Option (ClientId → String → World → World) := none

structure Gateway (World : Type) where
  config : Config
  clients : ClientRegistry := {}
  rooms : RoomRegistry := {}
  pending : PendingBinds
  hooks : Hooks World := {}
  signaling : Signaling World := {}
  clock : Clock

def nanosPerSecond : Nat := 1000000000

namespace Gateway

variable {World : Type}

/-- A gateway without hooks and handlers. -/
def new (config : Config) (clock : Clock) : Gateway World where
  config := config
  pending := .new (config.pendingTtl * nanosPerSecond) (config.onceBoundTtl * nanosPerSecond)
  clock := clock

def setHooks (gateway : Gateway World) (hooks : Hooks World) : Gateway World :=
  { gateway with hooks := hooks }

def setAdapter (gateway : Gateway World) (adaptor : Adaptor World) : Gateway World :=
  { gateway with signaling := gateway.signaling.setAdapter adaptor }

def decide (gateway : Gateway World) (token : String) (world : World) :
    Except GatewayError PendingBind × World :=
  match gateway.hooks.authenticate with
  | none => (Authentication.bindOfToken token, world)
  | some hook =>
    let (answer, after) := hook token world
    (Authentication.bindOfAnswer gateway.config.optionRequired answer, after)

/-- Authenticates a handshake. A handshake that is let in waits under the token `fresh`, which its
connect event has to present. -/
def authenticate (gateway : Gateway World) (request : Handshake) (fresh : CorrelationToken)
    (now : Nat) (world : World) : Except GatewayError CorrelationToken × Gateway World × World :=
  match Authentication.extractToken gateway.config.authPrefix request with
  | .error cause => (.error cause, gateway, world)
  | .ok token =>
    match gateway.decide token world with
    | (.error cause, after) => (.error cause, gateway, after)
    | (.ok bind, after) =>
      (.ok fresh, { gateway with pending := gateway.pending.stash fresh bind now }, after)

/-- Registers a client at the time of the gateway's clock, and closes the connection it leaves. -/
def register (transport : Transport World) (gateway : Gateway World) (id : ClientId)
    (connection : Connection) (option : String) (world : World) :
    Except GatewayError Unit × Gateway World × World :=
  let registration := gateway.clients.register id connection option gateway.clock.now
  (registration.result,
    { gateway with clients := registration.registry, clock := gateway.clock.advance },
    transport.disconnectAny registration.evicted world)

/-- Removes the client of a connection, and closes the connection. -/
def deregister (transport : Transport World) (gateway : Gateway World) (connection : Connection)
    (world : World) : Option (ClientId × String) × Gateway World × World :=
  let deregistration := gateway.clients.deregister connection
  (deregistration.departed, { gateway with clients := deregistration.registry },
    transport.disconnectAny deregistration.closed world)

/-- Tells the connect hook of a client that came online. -/
def announce (transport : Transport World) (gateway : Gateway World) (connection : Connection)
    (bind : PendingBind) (world : World) : Except ConnectError ClientId × World :=
  match gateway.hooks.connect with
  | none => (.ok bind.client, world)
  | some hook =>
    match hook bind.client bind.option world with
    | (.ok (), after) => (.ok bind.client, after)
    | (.error reason, after) => (.error (.rejected reason), transport.disconnect connection after)

/-- Processes the connect event of a connection that presents a token. -/
def connect (transport : Transport World) (gateway : Gateway World) (token : CorrelationToken)
    (connection : Connection) (now : Nat) (world : World) :
    Except ConnectError ClientId × Gateway World × World :=
  let (admission, pending) := gateway.pending.beginConnect token now
  let admitting := { gateway with pending := pending }
  match admission with
  -- the connection stays, as the first connect event may have put its client online
  | .duplicate => (.error .duplicateCallback, admitting, world)
  | .admitted none => (.error .noPendingBind, admitting, transport.disconnect connection world)
  | .admitted (some bind) =>
    match admitting.register transport bind.client connection bind.option world with
    | (.error cause, registering, after) =>
      (.error (.registration cause), registering, transport.disconnect connection after)
    | (.ok (), registering, after) =>
      let (answer, told) := registering.announce transport connection bind after
      (answer, registering, told)

/-- Processes the disconnect event of a connection: its client leaves the registries, and the
disconnect hook is told. -/
def disconnect (transport : Transport World) (gateway : Gateway World) (connection : Connection)
    (world : World) : Option (ClientId × String) × Gateway World × World :=
  match gateway.deregister transport connection world with
  | (none, left, after) => (none, left, after)
  | (some (id, option), left, after) =>
    let cleared := { left with rooms := left.rooms.removeClient id }
    match gateway.hooks.disconnect with
    | none => (some (id, option), cleared, after)
    | some hook => (some (id, option), cleared, hook id option after)

def dispatch (gateway : Gateway World) (connection : Connection) (event : String) (data : Json)
    (world : World) : Except DispatchError String × World :=
  gateway.signaling.dispatch gateway.clients connection event data world

def signal (transport : Transport World) (gateway : Gateway World) (id : ClientId)
    (event : String) (data : Json) (world : World) : Except GatewayError Unit × World :=
  gateway.clients.signaling transport id event data world

/-- Marks a client as idle at the time of the gateway's clock, which is read in any case. -/
def idle (gateway : Gateway World) (id : ClientId) : Except GatewayError Unit × Gateway World :=
  let (result, clients) := gateway.clients.idle id gateway.clock.now
  (result, { gateway with clients := clients, clock := gateway.clock.advance })

end Gateway

end SocketGateway
