import Std.Data.TreeSet
import SocketGateway.Frame
import SocketGateway.Transport

/-!
Contract: the sockets of one server, their outbound queues and their rooms.

Owns:
- slots, which a handshake reserves before its socket opens;
- the sockets that are open, and the rooms in which each of them is, listed by socket and by room;
- the outbound queue of every socket that was ever opened;
- the transport over a hub.

Does not own: reading sockets, or writing queues to them.
-/

namespace SocketGateway

/-- What waits to be written to a socket. -/
inductive Outbound where
  | text (content : String)
  | ping
  | close
deriving DecidableEq, Repr

/-- A socket that was opened once: whether it was closed, all that was ever queued for it in order,
and whether somebody still takes from the queue. -/
structure Socket where
  closed : Bool := false
  queued : List Outbound := []
  drained : Bool := true
deriving DecidableEq, Repr

/-- The sockets of a server. A socket that is open is a key of `peers`; one that was closed or
released is a key of `sockets` only. -/
structure Hub where
  /-- The rooms of each open socket. -/
  peers : Std.TreeMap ConnectionId (Std.TreeSet String) := ∅
  /-- The members of each room; a room without members is not kept. -/
  members : Std.TreeMap String (Std.TreeSet ConnectionId) := ∅
  reserved : Nat := 0
  sockets : Std.TreeMap ConnectionId Socket := ∅

namespace Hub

def connectionCount (hub : Hub) : Nat := hub.peers.size

/-- How many slots are taken, by open sockets and by reservations. -/
def occupied (hub : Hub) : Nat := hub.peers.size + hub.reserved

/-- Reserves a slot, unless `capacity` slots are taken. -/
def reserve? (hub : Hub) (capacity : Nat) : Option Hub :=
  if capacity ≤ hub.occupied then none else some { hub with reserved := hub.reserved + 1 }

def dropReservation (hub : Hub) : Hub := { hub with reserved := hub.reserved - 1 }

def openSocket (hub : Hub) (id : ConnectionId) : Hub :=
  { hub with
    reserved := hub.reserved - 1
    peers := hub.peers.insert id ∅
    sockets := hub.sockets.insert id {} }

def removeMember (id : ConnectionId)
    (members : Std.TreeMap String (Std.TreeSet ConnectionId)) (room : String) :
    Std.TreeMap String (Std.TreeSet ConnectionId) :=
  match members[room]? with
  | none => members
  | some present =>
    let left := present.erase id
    if left.isEmpty then members.erase room else members.insert room left

/-- Takes a socket off the hub and out of its rooms. -/
def detach (hub : Hub) (id : ConnectionId) : Hub :=
  match hub.peers[id]? with
  | none => hub
  | some rooms =>
    { hub with
      peers := hub.peers.erase id
      members := rooms.toList.foldl (removeMember id) hub.members }

def gone (id : ConnectionId) : TransportError := .closed id.text

def join (hub : Hub) (id : ConnectionId) (room : String) : Except TransportError Unit × Hub :=
  match hub.peers[id]? with
  | none => (.error (gone id), hub)
  | some rooms =>
    (.ok (), { hub with
      peers := hub.peers.insert id (rooms.insert room)
      members := hub.members.insert room ((hub.members.getD room ∅).insert id) })

def leave (hub : Hub) (id : ConnectionId) (room : String) : Except TransportError Unit × Hub :=
  match hub.peers[id]? with
  | none => (.error (gone id), hub)
  | some rooms =>
    (.ok (), { hub with
      peers := hub.peers.insert id (rooms.erase room)
      members := removeMember id hub.members room })

def roomsOf (hub : Hub) (id : ConnectionId) : List String :=
  match hub.peers[id]? with
  | none => []
  | some rooms => rooms.toList

def membersOf (hub : Hub) (room : String) : List ConnectionId :=
  match hub.members[room]? with
  | none => []
  | some present => present.toList

/-- The socket with that id. One that was never opened is closed, with nobody at its queue. -/
def socket (hub : Hub) (id : ConnectionId) : Socket :=
  hub.sockets.getD id { closed := true, drained := false }

/-- All that was ever queued for a socket, in order. -/
def queueOf (hub : Hub) (id : ConnectionId) : List Outbound := (hub.socket id).queued

def isClosed (hub : Hub) (id : ConnectionId) : Bool := (hub.socket id).closed

/-- Queues an item, if somebody takes from the queue. -/
def enqueue (hub : Hub) (id : ConnectionId) (item : Outbound) : Except TransportError Unit × Hub :=
  let socket := hub.socket id
  if socket.drained then
    (.ok (), { hub with
      sockets := hub.sockets.insert id { socket with queued := socket.queued ++ [item] } })
  else (.error (gone id), hub)

/-- Queues an item, or does nothing if nobody takes from the queue. -/
def offer (hub : Hub) (id : ConnectionId) (item : Outbound) : Hub := (hub.enqueue id item).2

/-- Marks a socket as closed. -/
def markClosed (hub : Hub) (id : ConnectionId) : Hub :=
  { hub with sockets := hub.sockets.insert id { hub.socket id with closed := true } }

def sendFrame (hub : Hub) (id : ConnectionId) (frame : ServerFrame) :
    Except TransportError Unit × Hub :=
  hub.enqueue id (.text frame.text)

/-- Queues an event for a socket that is not closed. -/
def emit (hub : Hub) (id : ConnectionId) (event : String) (data : Json) :
    Except TransportError Unit × Hub :=
  if hub.isClosed id then (.error (gone id), hub) else hub.sendFrame id (.event event data)

/-- Queues the answer to an inbound frame, also for a socket that was closed since. -/
def sendAck (hub : Hub) (id : ConnectionId) (number : UInt64) (response : String) :
    Except TransportError Unit × Hub :=
  hub.sendFrame id (.answer number response)

def ping (hub : Hub) (id : ConnectionId) : Except TransportError Unit × Hub := hub.enqueue id .ping

/-- Queues an event for all members of a room but the sender. A member whose queue nobody takes
from is passed over. -/
def broadcast (hub : Hub) (sender : ConnectionId) (room event : String) (data : Json) :
    Except TransportError Unit × Hub :=
  if hub.isClosed sender then (.error (gone sender), hub)
  else
    let item := Outbound.text (ServerFrame.event event data).text
    let receivers := (hub.membersOf room).filter fun member =>
      member ≠ sender && hub.peers.contains member
    (.ok (), receivers.foldl (fun hub member => hub.offer member item) hub)

/-- Closes a socket: it leaves the hub, and a close is the last thing queued for it. A socket that
is closed already stays as it is. -/
def disconnect (hub : Hub) (id : ConnectionId) : Hub :=
  if hub.isClosed id then hub else ((hub.markClosed id).detach id).offer id .close

/-- Takes a socket off the hub without a close, because it is gone. -/
def release (hub : Hub) (id : ConnectionId) : Hub := (hub.markClosed id).detach id

/-- Nobody takes from the queue of the socket any more. -/
def abandonQueue (hub : Hub) (id : ConnectionId) : Hub :=
  { hub with sockets := hub.sockets.insert id { hub.socket id with drained := false } }

/-- Acts on the hub beside which a world has something else. -/
def beside {α Other : Type} (act : Hub → α × Hub) (world : Hub × Other) : α × (Hub × Other) :=
  ((act world.1).1, ((act world.1).2, world.2))

/-- The transport over a hub, in a world that has something else beside it. -/
def transport (Other : Type) : Transport (Hub × Other) where
  emit := fun connection event data => beside fun hub => hub.emit connection.id event data
  join := fun connection room => beside fun hub => hub.join connection.id room
  leave := fun connection room => beside fun hub => hub.leave connection.id room
  rooms := fun connection world => world.1.roomsOf connection.id
  broadcast := fun connection room event data =>
    beside fun hub => hub.broadcast connection.id room event data
  disconnect := fun connection world => (world.1.disconnect connection.id, world.2)

/-- The connection of a socket. The ids of sockets are distinct, so the label adds nothing. -/
def connection (id : ConnectionId) : Connection := ⟨id, id.text⟩

end Hub

/-- What a writer puts on the wire of all that is queued: everything up to the first close, which is
the last thing written. -/
def writtenOf : List Outbound → List Outbound
  | [] => []
  | .close :: _ => [.close]
  | item :: rest => item :: writtenOf rest

end SocketGateway
