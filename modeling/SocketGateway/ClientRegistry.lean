import Std.Data.TreeMap
import SocketGateway.Client

/-!
Contract: which client is online on which connection, and which clients are idle.

Owns:
- the clients that are online, and the index from connections to them;
- the marks of idle clients, numbered in the order in which they were set;
- registering, where the last writer of an id or of a connection wins, and its counterpart;
- sending an event to a client by its id.

The registry tells which connection has to be closed; closing it is the caller's part.

Does not own: clocks, or what happens when a client comes or goes.
-/

namespace SocketGateway

/-- That a client is idle: the number of the mark, and the clock's reading when it was set. Marks
are ordered by their numbers alone, as a clock may run backwards. -/
structure IdleMark where
  number : Nat
  since : Int64
deriving DecidableEq, Repr

structure ClientRegistry where
  clients : Std.TreeMap ClientId Client := ∅
  /-- The client to which a connection belongs. -/
  owners : Std.TreeMap ConnectionId ClientId := ∅
  idleMarks : Std.TreeMap ClientId IdleMark := ∅
  /-- How many marks were set so far. -/
  marksSet : Nat := 0

/-- What came of a registration: the registry after it, whether it was refused, and the connection
that has to be closed, because its client moved to the new one. -/
structure Registration where
  registry : ClientRegistry
  result : Except GatewayError Unit
  evicted : Option Connection

/-- What came of a deregistration: the registry after it, the client that left with its option, and
the connection that has to be closed. -/
structure Deregistration where
  registry : ClientRegistry
  departed : Option (ClientId × String)
  closed : Option Connection

namespace ClientRegistry

variable {World : Type}

/-- Marks a client as idle since `now`, after all other idle clients. -/
def markIdle (registry : ClientRegistry) (id : ClientId) (now : Int64) : ClientRegistry :=
  { registry with
    idleMarks := registry.idleMarks.insert id ⟨registry.marksSet + 1, now⟩
    marksSet := registry.marksSet + 1 }

/-- Takes a connection from the client to which it belongs, if there is one. That client leaves,
but its connection stays open. -/
def releaseConnection (registry : ClientRegistry) (connection : ConnectionId) : ClientRegistry :=
  match registry.owners[connection]? with
  | none => registry
  | some owner =>
    let released := { registry with owners := registry.owners.erase connection }
    if released.clients.contains owner then
      { released with
        clients := released.clients.erase owner
        idleMarks := released.idleMarks.erase owner }
    else released

/-- Binds a client to a connection, enters it under an id that is not in the registry, and marks the
id idle. -/
def enroll (registry : ClientRegistry) (id : ClientId) (client : Client) (connection : Connection)
    (option : String) (now : Int64) : ClientRegistry × Except GatewayError Unit :=
  let free := registry.releaseConnection connection.id
  match client.bind connection option with
  | .error cause => (free, .error cause)
  | .ok bound =>
    let entered :=
      { free with
        owners := free.owners.insert connection.id id
        clients := free.clients.insert id bound }
    (entered.markIdle id now, .ok ())

/-- Registers a client on a connection. Nothing changes if it is there already. A client that was
on another connection leaves that one, which has to be closed; a client that was on this connection
leaves the registry. -/
def register (registry : ClientRegistry) (id : ClientId) (connection : Connection)
    (option : String) (now : Int64) : Registration :=
  match registry.clients[id]? with
  | none =>
    let (after, result) := registry.enroll id { id := id } connection option now
    ⟨after, result, none⟩
  | some known =>
    let without := { registry with clients := registry.clients.erase id }
    match known.connection with
    | none =>
      let (after, result) := without.enroll id known connection option now
      ⟨after, result, none⟩
    | some current =>
      if current.id = connection.id then ⟨registry, .ok (), none⟩
      else
        -- it moves, and another client may be on its new connection
        let left := { without with owners := without.owners.erase current.id }
        let (after, result) := left.enroll id known.unbind connection option now
        ⟨after, result, some current⟩

/-- Removes the client to which a connection belongs. A connection that belongs to no client has to
be closed as well. -/
def deregister (registry : ClientRegistry) (connection : Connection) : Deregistration :=
  match registry.owners[connection.id]? with
  | none => ⟨registry, none, some connection⟩
  | some id =>
    let without :=
      { registry with
        owners := registry.owners.erase connection.id
        idleMarks := registry.idleMarks.erase id }
    match without.clients[id]? with
    | none => ⟨without, none, some connection⟩
    | some client =>
      ⟨{ without with clients := without.clients.erase id }, some (id, client.option),
        client.connection⟩

def idle (registry : ClientRegistry) (id : ClientId) (now : Int64) :
    Except GatewayError Unit × ClientRegistry :=
  if registry.clients.contains id then (.ok (), registry.markIdle id now)
  else (.error (.notFound id.text), registry)

def leaveIdle (registry : ClientRegistry) (id : ClientId) : ClientRegistry :=
  { registry with idleMarks := registry.idleMarks.erase id }

/-- The idle clients in the order of their marks, each with the time since when it is idle. -/
def idleEntries (registry : ClientRegistry) : List (ClientId × Int64) :=
  (registry.idleMarks.toList.mergeSort fun left right => left.2.number ≤ right.2.number).map
    fun entry => (entry.1, entry.2.since)

def sortedIdle (registry : ClientRegistry) : List ClientId :=
  registry.idleEntries.map Prod.fst

/-- How many clients are online with each option; the empty option does not count. -/
def counts (registry : ClientRegistry) : Std.TreeMap String Nat :=
  registry.clients.foldl (fun counted _ client =>
    if client.option = "" then counted
    else counted.insert client.option (counted.getD client.option 0 + 1)) ∅

def get? (registry : ClientRegistry) (id : ClientId) : Option Client := registry.clients[id]?

def lookup (registry : ClientRegistry) (connection : ConnectionId) : Option ClientId :=
  registry.owners[connection]?

def option (registry : ClientRegistry) (id : ClientId) : Except GatewayError String :=
  match registry.get? id with
  | none => .error (.notFound id.text)
  | some client => .ok client.option

def setOption (registry : ClientRegistry) (id : ClientId) (option : String) :
    Except GatewayError Unit × ClientRegistry :=
  match registry.get? id with
  | none => (.error (.notFound id.text), registry)
  | some client =>
    (.ok (), { registry with
      clients := registry.clients.insert id { client with option := option } })

def clientIds (registry : ClientRegistry) : List ClientId := registry.clients.keys

def size (registry : ClientRegistry) : Nat := registry.clients.size

def isEmpty (registry : ClientRegistry) : Bool := registry.clients.isEmpty

def signaling (transport : Transport World) (registry : ClientRegistry) (id : ClientId)
    (event : String) (data : Json) (world : World) : Except GatewayError Unit × World :=
  match registry.get? id with
  | none => (.error (.targetOffline id.text), world)
  | some client => client.send transport event data world

end ClientRegistry

end SocketGateway
