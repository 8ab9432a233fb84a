import SocketGateway.Error
import SocketGateway.Identity
import SocketGateway.Json.Value

/-!
Contract: what the gateway asks of a transport.

Owns:
- connections, as the transport hands them out;
- the calls on a connection, over a world that the transport, the application's hooks and its
  handlers share.

Every call says what it answers and what it makes of the world, so a transport may refuse, record
or forget as it likes.

Does not own: any particular transport.
-/

namespace SocketGateway

/-- A connection. Two sockets may bear one id; the label tells them apart. -/
structure Connection where
  id : ConnectionId
  label : String
deriving DecidableEq, Repr

/-- The calls on connections of one transport. -/
structure Transport (World : Type) where
  /-- Sends an event to the peer of the connection. -/
  emit : Connection → String → Json → World → Except TransportError Unit × World
  join : Connection → String → World → Except TransportError Unit × World
  leave : Connection → String → World → Except TransportError Unit × World
  /-- The rooms in which the transport sees the connection. -/
  rooms : Connection → World → List String
  /-- Sends an event to the other members of a room. -/
  broadcast : Connection → String → String → Json → World → Except TransportError Unit × World
  /-- Closes the connection; it may be closed already. -/
  disconnect : Connection → World → World

/-- Closes a connection, if there is one. -/
def Transport.disconnectAny {World : Type} (transport : Transport World) :
    Option Connection → World → World
  | none, world => world
  | some connection, world => transport.disconnect connection world

end SocketGateway
