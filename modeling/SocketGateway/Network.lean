import SocketGateway.Http.Request
import SocketGateway.Http.Route
import SocketGateway.Identity.Fresh
import SocketGateway.Journal
import SocketGateway.Session

/-!
Contract: a server and its peers in memory, with a clock that runs only when told to.

Owns:
- the sessions that are online, and when each of them last heard from its peer;
- the peers, which may leave what they receive unread;
- writing the queues of sockets, and ending sessions;
- heartbeats, in the order of their times.

Times are in milliseconds. Nothing here waits, so a history of the server can be played through at
once.

Does not own: what a peer does.
-/

namespace SocketGateway

/-- What a peer receives. -/
inductive Delivery where
  | text (content : String)
  | ping
  | close
  /-- Its stream is over without a close. -/
  | ended
deriving DecidableEq, Repr

def Outbound.delivery : Outbound → Delivery
  | .text content => .text content
  | .ping => .ping
  | .close => .close

/-- Whether nothing comes after it. -/
def Delivery.isLast : Delivery → Bool
  | .close => true
  | .ended => true
  | _ => false

/-- The other side of a connection. -/
structure Peer where
  connection : ConnectionId
  /-- Whether it reads, and so answers heartbeats. -/
  reading : Bool := true
  /-- Whether it received its last delivery, or asked to close. -/
  finished : Bool := false
  unread : List Delivery := []
deriving DecidableEq, Repr

structure LiveSession where
  session : Session
  /-- How many items of the queue were written. -/
  written : Nat := 0
  lastHeard : Nat
  nextBeat : Nat

def LiveSession.connection (live : LiveSession) : ConnectionId := live.session.connection

/-- A server and its peers. The journal of the server's application is kept beside the hub. -/
structure Network where
  server : Server Journal
  time : Nat := 0
  /-- How many handshakes drew ids so far. -/
  drawn : Nat := 0
  sessions : List LiveSession := []
  peers : Std.TreeMap String Peer := ∅
  /-- What each peer read and was not yet collected. -/
  received : Std.TreeMap String (List Delivery) := ∅

namespace Network

/-- Records a call of the application in a world with a hub. -/
def note (entry : Entry) (world : Hub × Journal) : Hub × Journal :=
  (world.1, world.2 ++ [entry])

def nanos (network : Network) : Nat := network.time * 1000000

def session? (network : Network) (id : ConnectionId) : Option LiveSession :=
  network.sessions.find? fun live => live.connection = id

def modifySession (network : Network) (id : ConnectionId) (change : LiveSession → LiveSession) :
    Network :=
  { network with
    sessions := network.sessions.map fun live =>
      if live.connection = id then change live else live }

/-- A message came in on a connection. -/
def heard (network : Network) (id : ConnectionId) : Network :=
  network.modifySession id fun live => { live with lastHeard := network.time }

/-- The deliveries up to the first one that is the last, and whether there was such a one. -/
def untilLast : List Delivery → List Delivery × Bool
  | [] => ([], false)
  | item :: rest =>
    if item.isLast then ([item], true)
    else
      let (others, finished) := untilLast rest
      (item :: others, finished)

/-- A peer reads deliveries and answers the heartbeats among them at once. -/
def read (network : Network) (name : String) (peer : Peer) (items : List Delivery) : Network :=
  let (taken, finished) := untilLast items
  let known := network.received.getD name []
  let reading :=
    { network with
      peers := network.peers.insert name { peer with finished := finished, unread := [] }
      received :=
        if taken.isEmpty then network.received else network.received.insert name (known ++ taken) }
  if Delivery.ping ∈ taken then reading.heard peer.connection else reading

def deliverTo (network : Network) (name : String) (peer : Peer) (items : List Delivery) :
    Network :=
  if peer.finished then network
  else if peer.reading then network.read name peer items
  else
    { network with
      peers := network.peers.insert name { peer with unread := peer.unread ++ items } }

def deliver (network : Network) (id : ConnectionId) (items : List Delivery) : Network :=
  match network.peers.toList.find? fun entry => entry.2.connection = id with
  | none => network
  | some (name, peer) => network.deliverTo name peer items

/-- Ends a session that is online, without a word to its peer. -/
def endSession (network : Network) (id : ConnectionId) : Network :=
  match network.session? id with
  | none => network
  | some live =>
    { network with
      server := live.session.finish network.nanos network.server
      sessions := network.sessions.filter fun other => other.connection ≠ id }

/-- Cuts a session off: its peer's stream is over. -/
def cutOff (network : Network) (id : ConnectionId) : Network :=
  (network.endSession id).deliver id [.ended]

/-- Writes what is queued for a session. A close that was written ends the session. -/
def write (network : Network) (id : ConnectionId) : Network :=
  match network.session? id with
  | none => network
  | some live =>
    let items := writtenOf ((network.server.hub.queueOf id).drop live.written)
    let sent := network.modifySession id fun live =>
      { live with written := live.written + items.length }
    let delivered := sent.deliver id (items.map Outbound.delivery)
    if Outbound.close ∈ items then delivered.endSession id else delivered

def writeAll (network : Network) : Network :=
  (network.sessions.map LiveSession.connection).foldl write network

def interval (network : Network) : Nat := network.server.gateway.config.interval * 1000

/-- The silence after which a heartbeat cuts a session off. -/
def timeout (network : Network) : Nat := network.server.gateway.config.timeout * 1000

/-- The heartbeat of a session, at its time. -/
def beat (network : Network) (live : LiveSession) : Network :=
  let id := live.connection
  let due := { network with time := live.nextBeat }
  if network.timeout ≤ due.time - live.lastHeard then due.cutOff id
  else
    let waiting := due.modifySession id fun live =>
      { live with nextBeat := live.nextBeat + network.interval }
    { waiting with server := (waiting.server.ping id).2 }.write id

/-- The session whose heartbeat comes next, if it comes by a time. -/
def nextDue? (network : Network) (limit : Nat) : Option LiveSession :=
  (network.sessions.filter fun live => live.nextBeat ≤ limit).foldl (fun first live =>
    match first with
    | none => some live
    | some earlier => if live.nextBeat < earlier.nextBeat then some live else some earlier) none

/-- Lets the heartbeats up to a time happen, at most as many as the first argument says. -/
def beatUntil : Nat → Nat → Network → Network
  | 0, _, network => network
  | count + 1, limit, network =>
    match network.nextDue? limit with
    | none => network
    | some live => beatUntil count limit (network.beat live)

/-- Lets time pass. Every session has a heartbeat each interval, so their number is bounded. -/
def elapse (span : Nat) (network : Network) : Network :=
  let limit := network.time + span
  let beats := network.sessions.length * (span / network.interval + 2)
  { beatUntil beats limit network with time := limit }

end Network

end SocketGateway
