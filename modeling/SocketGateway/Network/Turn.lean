import SocketGateway.Network

/-!
Contract: what a peer or the application does to a network, and what comes of it.

Owns:
- handshakes, what a connected peer may do, plain requests, and the application's own calls;
- what each of them answers;
- turns, each of which clears what was collected, acts, writes what was queued, and takes one
  millisecond.

Does not own: heartbeats, which happen while time passes.
-/

namespace SocketGateway

/-- A request to open a socket. -/
structure Attempt where
  method : String := "GET"
  /-- Whether it asks for the upgrade as it should. -/
  upgrade : Bool := true
  headers : List (String × String) := []
  query : Option String := none
  /-- Whether the peer will read. -/
  reading : Bool := true
deriving DecidableEq, Repr

/-- What a connected peer does. -/
inductive PeerAction where
  | send (text : String)
  /-- It sends a binary message, which nobody answers. -/
  | sendBinary
  | ping
  | pong
  | close
  | drop
  /-- It starts to read. -/
  | unmute
deriving DecidableEq, Repr

/-- What happens to a network. -/
inductive Action where
  | connect (name : String) (attempt : Attempt)
  | act (name : String) (action : PeerAction)
  /-- A request that asks for no upgrade. -/
  | request (method target : String)
  | advance (seconds : Nat)
  /-- The application sends an event to a client. -/
  | signal (client event : String) (data : Json)
  | addStaffer (group client : String)
  | staffers (group : String)

inductive Outcome where
  | done
  | answered (response : Http.Response)
  | noSuchPeer
  | peerClosed
  | noClientId (cause : ClientIdError)
  | refused (cause : GatewayError)
  | added (isNew : Bool)
  | listed (clients : List ClientId)

namespace Network

/-- Starts reading the messages of a session whose client came online. Without an interval there is
no heartbeat to wait for, and the session is cut off. -/
def goOnline (network : Network) (session : Session) : Network :=
  let live : LiveSession :=
    { session := session, lastHeard := network.time, nextBeat := network.time + network.interval }
  let online := { network with sessions := network.sessions ++ [live] }
  if network.interval = 0 then (online.write session.connection).cutOff session.connection
  else online

/-- Writes what is queued for a session that was refused, and ends it. -/
def dismiss (network : Network) (session : Session) : Network :=
  let id := session.connection
  let items := writtenOf (network.server.hub.queueOf id)
  { network with server := session.finish network.nanos network.server }.deliver id
    (items.map Outbound.delivery)

/-- Opens the socket of a handshake that was let in. A peer of the same name is forgotten, and its
session ends. -/
def openPeer (network : Network) (name : String) (reading : Bool) (session : Session)
    (token : CorrelationToken) : Network :=
  -- the older session ends only after the newer one has entered
  let older := network.peers[name]?
  let peer : Peer := { connection := session.connection, reading := reading }
  let known := { network with peers := network.peers.insert name peer }
  let (stage, server) := session.enter network.nanos token known.server
  let entered := { known with server := server }
  let placed :=
    match stage with
    | .online => entered.goOnline session
    | _ => entered.dismiss session
  match older with
  | none => placed
  | some peer => placed.endSession peer.connection

/-- Answers a request to open a socket. -/
def connect (network : Network) (name : String) (attempt : Attempt) : Outcome × Network :=
  let answer := fun status => Outcome.answered ⟨status, none⟩
  let config := network.server.gateway.config
  let target :=
    match attempt.query with
    | none => config.socketPath
    | some query => config.socketPath ++ "?" ++ query
  if !Http.isTarget target then (answer 400, network)
  else if Http.pathOf target ≠ config.socketPath then (answer 404, network)
  else if attempt.method ≠ "GET" then (answer 405, network)
  else if !attempt.upgrade then (answer 400, network)
  else
    let number := UInt64.ofNat network.drawn
    let session : Session :=
      { request := Http.handshake attempt.headers attempt.query
        token := Fresh.correlationToken 0 number
        connection := Fresh.connectionId 0 number }
    let (stage, server) := session.handshake network.nanos network.server
    let asked := { network with server := server, drawn := network.drawn + 1 }
    match stage with
    | .authenticated token => (answer 101, asked.openPeer name attempt.reading session token)
    | _ => (answer (Session.status stage), asked)

/-- Takes a text from a connection, if its session is online. -/
def receive (network : Network) (id : ConnectionId) (text : String) : Network :=
  match network.session? id with
  | none => network
  | some _ =>
    let after := network.heard id
    { after with server := after.server.receive id text }

/-- Does what a connected peer does. -/
def actAs (network : Network) (name : String) (peer : Peer) : PeerAction → Network
  | .send text => network.receive peer.connection text
  | .sendBinary => network.heard peer.connection
  | .ping => network.heard peer.connection
  | .pong => network.heard peer.connection
  | .close =>
    { network with peers := network.peers.insert name { peer with finished := true } }.endSession
      peer.connection
  | .drop => { network with peers := network.peers.erase name }.endSession peer.connection
  | .unmute => network.read name { peer with reading := true } peer.unread

/-- Does what a peer does. A peer that is finished can only vanish. -/
def act (network : Network) (name : String) (action : PeerAction) : Outcome × Network :=
  match network.peers[name]? with
  | none => (.noSuchPeer, network)
  | some peer =>
    if peer.finished ∧ action ≠ .drop then (.peerClosed, network)
    else (.done, network.actAs name peer action)

/-- The clients of a text, for an action on one of them. -/
def withClient (network : Network) (text : String) (act : ClientId → Outcome × Network) :
    Outcome × Network :=
  match ClientId.ofText text with
  | .error cause => (.noClientId cause, network)
  | .ok id => act id

def signal (network : Network) (id : ClientId) (event : String) (data : Json) :
    Outcome × Network :=
  let (answer, server) := network.server.signal id event data
  (match answer with
    | .ok () => .done
    | .error cause => .refused cause,
    { network with server := server })

def withRooms (network : Network) (rooms : RoomRegistry) : Network :=
  { network with
    server := { network.server with gateway := { network.server.gateway with rooms := rooms } } }

def perform (network : Network) : Action → Outcome × Network
  | .connect name attempt => network.connect name attempt
  | .act name action => network.act name action
  | .request method target =>
    (.answered (Http.respond network.server.gateway.config network.server.gateway.clients method
      target), network)
  | .advance seconds => (.done, network.elapse (seconds * 1000))
  | .signal client event data => network.withClient client fun id => network.signal id event data
  | .addStaffer group client => network.withClient client fun id =>
    let (isNew, rooms) := network.server.gateway.rooms.addStaffer group id
    (.added isNew, network.withRooms rooms)
  | .staffers group => (.listed (network.server.gateway.rooms.staffers group), network)

/-- Clears what was collected: what peers read, and the journal. -/
def collect (network : Network) : Network :=
  { network with received := ∅, server := { network.server with app := [] } }

/-- Does an action in a turn of its own. -/
def turn (network : Network) (action : Action) : Outcome × Network :=
  let (outcome, after) := network.collect.perform action
  (outcome, after.writeAll.elapse 1)

end Network

end SocketGateway
