import SocketGateway.Text.Quoted
import SocketGateway.Transport

/-!
Contract: one client, bound to at most one connection.

Owns:
- the client's id, its option and its connection;
- binding and unbinding;
- what a bound client can do: receive events, join and leave rooms, and broadcast to rooms;
- how diagnostics show a client.

Loops over rooms take one room after another and stop at the first refusal; what was done before it
stays done.

Does not own: which client a connection belongs to.
-/

namespace SocketGateway

structure Client where
  id : ClientId
  /-- What the authentication said about the client. -/
  option : String := ""
  connection : Option Connection := none
deriving DecidableEq, Repr

namespace Client

variable {World : Type}

def isBound (client : Client) : Bool := client.connection.isSome

def connectionId? (client : Client) : Option ConnectionId := client.connection.map Connection.id

/-- The client as diagnostics show it. -/
def shown (client : Client) : String :=
  "Client \x7b id: ClientId(" ++ Text.quoted client.id.text ++ "), option: "
    ++ Text.quoted client.option ++ ", connection: "
    ++ (match client.connectionId? with
      | none => "None"
      | some id => "Some(ConnectionId(" ++ Text.quoted id.text ++ "))")
    ++ " \x7d"

/-- Binds an unbound client. -/
def bind (client : Client) (connection : Connection) (option : String) :
    Except GatewayError Client :=
  match client.connection with
  | some _ => .error (.duplicateRegistration client.id.text)
  | none => .ok { client with connection := some connection, option := option }

def unbind (client : Client) : Client := { client with connection := none }

/-- Does `act` on the connection of a bound client. -/
def whenBound (client : Client)
    (act : Connection → World → Except GatewayError Unit × World) (world : World) :
    Except GatewayError Unit × World :=
  match client.connection with
  | none => (.error (.notBound client.id.text), world)
  | some connection => act connection world

/-- A call's answer, with a refusal passed on unchanged. -/
def passOn (answer : Except TransportError Unit × World) : Except GatewayError Unit × World :=
  (answer.1.mapError .transport, answer.2)

/-- Calls `act` on one room after another, up to the first refusal. -/
def forRooms (act : String → World → Except TransportError Unit × World) :
    List String → World → Except GatewayError Unit × World
  | [], world => (.ok (), world)
  | room :: rest, world =>
    match act room world with
    | (.ok (), after) => forRooms act rest after
    | (.error cause, after) => (.error (.transport cause), after)

def send (transport : Transport World) (client : Client) (event : String) (data : Json) :
    World → Except GatewayError Unit × World :=
  client.whenBound fun connection world => passOn (transport.emit connection event data world)

def emptyRoom : GatewayError := .invalidArgument "room is empty"

/-- Joins a room; nothing happens in a room where the transport sees the client already. -/
def join (transport : Transport World) (client : Client) (room : String) :
    World → Except GatewayError Unit × World :=
  client.whenBound fun connection world =>
    if room = "" then (.error emptyRoom, world)
    else if room ∈ transport.rooms connection world then (.ok (), world)
    else passOn (transport.join connection room world)

def leave (transport : Transport World) (client : Client) (room : String) :
    World → Except GatewayError Unit × World :=
  client.whenBound fun connection world =>
    if room = "" then (.error emptyRoom, world)
    else passOn (transport.leave connection room world)

/-- Leaves every room in which the transport sees the client at the start. -/
def leaveRooms (transport : Transport World) (client : Client) :
    World → Except GatewayError Unit × World :=
  client.whenBound fun connection world =>
    forRooms (transport.leave connection) (transport.rooms connection world) world

/-- Broadcasts to the given rooms, or to all rooms of the client if none is given. -/
def broadcast (transport : Transport World) (client : Client) (event : String) (data : Json)
    (rooms : List String) : World → Except GatewayError Unit × World :=
  client.whenBound fun connection world =>
    let targets := if rooms.isEmpty then transport.rooms connection world else rooms
    forRooms (fun room => transport.broadcast connection room event data) targets world

end Client

end SocketGateway
