import SocketGateway.Proofs.Hub.Queues
import SocketGateway.Proofs.Server.Workload
import SocketGateway.Proofs.Signaling.Handlers

/-!
Contract: connections that lost their client.

Owns:
- what a server denies to a connection, and what it does for a client on another one;
- that a connection whose client came back elsewhere, or which was deregistered, is denied
  everything from then on, whatever happens, as long as it is not presented to be registered again;
- that the client takes none of its rooms along.

Does not own: answers and pings, which may still be queued for such a connection.
-/

namespace SocketGateway

variable {App : Type}

/-! ### What a connection is denied -/

/-- The connection acts for nobody, and nothing that is sent to a client or a room reaches it. -/
structure Server.Fences (server : Server App) (key : ConnectionId) : Prop where
  dispatch : ∀ event data,
    server.gateway.dispatch (Hub.connection key) event data server.world =
        (.error (.unknownEvent event), server.world) ∨
      server.gateway.dispatch (Hub.connection key) event data server.world =
        (.error (.unregistered key.text), server.world)
  signal : ∀ id event data, (server.signal id event data).2.hub.queueOf key = server.hub.queueOf key
  emit : ∀ event data, server.hub.emit key event data = (.error (.closed key.text), server.hub)
  rooms : server.hub.roomsOf key = []
  member : ∀ room, key ∉ server.hub.membersOf room
  join : ∀ room, server.hub.join key room = (.error (.closed key.text), server.hub)
  broadcast : ∀ sender room event data,
    (server.hub.broadcast sender room event data).2.queueOf key = server.hub.queueOf key

/-- What comes from the connection is handled as from the client, and what is sent to the client is
queued for the connection, unless that is closed, and for no other one. -/
structure Server.Serves (server : Server App) (id : ClientId) (key : ConnectionId) : Prop where
  dispatch : ∀ event data handler, server.gateway.signaling.handlers[event]? = some handler →
    server.gateway.dispatch (Hub.connection key) event data server.world =
      (.ok (handler (Hub.connection key) id data server.world).1,
        (handler (Hub.connection key) id data server.world).2)
  signal : ∀ event data other,
    Hub.Receives other
      (if key = other ∧ server.hub.isClosed key = false then
        [.text (ServerFrame.event event data).text] else [])
      server.hub (server.signal id event data).2.hub

section

variable {server : Server App} {id : ClientId} {key : ConnectionId}

/-- What is sent to a client is emitted on its connection. -/
theorem Server.signal_of_isOn (on : server.gateway.clients.IsOn id key) (event : String)
    (data : Json) :
    (server.signal id event data).2.hub = (server.hub.emit key event data).2 := by
  obtain ⟨connection, bound, rfl⟩ := ClientRegistry.isOn_iff.mp on
  obtain ⟨client, found, isBound⟩ := Option.bind_eq_some_iff.mp bound
  simp [signal, Gateway.signal, ClientRegistry.signaling, ClientRegistry.get?, found, Client.send,
    Client.whenBound, isBound, Client.passOn, update, Hub.transport, Hub.beside, world]

/-- Nothing is sent to a client without a connection. -/
theorem Server.signal_of_offline (offline : server.gateway.clients.connectionOf id = none)
    (event : String) (data : Json) : (server.signal id event data).2.hub = server.hub := by
  unfold signal Gateway.signal ClientRegistry.signaling ClientRegistry.get?
  cases found : server.gateway.clients.clients[id]? with
  | none => rfl
  | some client =>
    have unbound : client.connection = none := by
      simpa [ClientRegistry.connectionOf, found] using offline
    simp [Client.send, Client.whenBound, unbound, update, world]

/-- A connection that belongs to nobody and whose socket is closed is fenced off. -/
theorem Server.fences_of_closed (unbound : server.gateway.clients.lookup key = none)
    (closed : server.hub.isClosed key = true) (notPeer : key ∉ server.hub.peers)
    (consistent : server.hub.Consistent) : server.Fences key where
  dispatch := by
    intro event data
    have nobody : server.gateway.clients.lookup (Hub.connection key).id = none := unbound
    unfold Gateway.dispatch
    rcases server.gateway.signaling.dispatch_cases server.gateway.clients (Hub.connection key)
      event data server.world with ⟨-, fails⟩ | ⟨handler, -, ⟨-, fails⟩ | ⟨id, bound, -⟩⟩
    · exact Or.inl fails
    · exact Or.inr fails
    · cases nobody.symm.trans bound
  signal := by
    intro id event data
    cases bound : server.gateway.clients.connectionOf id with
    | none => rw [signal_of_offline bound]
    | some connection =>
      have on := ClientRegistry.isOn_iff.mpr ⟨connection, bound, rfl⟩
      have received := server.hub.receives_emit connection.id key event data
      rw [if_neg] at received
      · rw [signal_of_isOn on, received.nothing]
      · rintro ⟨rfl, lasting⟩
        exact Bool.false_ne_true (lasting.symm.trans closed)
  emit := Hub.emit_of_closed closed
  rooms := Hub.roomsOf_of_not_peer notPeer
  member := consistent.not_member notPeer
  join := Hub.join_of_not_peer notPeer
  broadcast := by
    intro sender room event data
    have received := server.hub.receives_broadcast sender key room event data
    rw [if_neg fun reached => notPeer reached.2.2.2] at received
    exact received.nothing

private theorem Server.serves_of_lookup (consistent : server.gateway.clients.Consistent)
    (belongs : server.gateway.clients.lookup key = some id) : server.Serves id key where
  dispatch := by
    intro event data handler found
    have owner : server.gateway.clients.lookup (Hub.connection key).id = some id := belongs
    exact Signaling.dispatch_bound found owner data server.world
  signal := by
    intro event data other
    rw [signal_of_isOn (consistent.owned.mp belongs)]
    exact server.hub.receives_emit key other event data

end

/-! ### What a run keeps -/

namespace Workload

variable {workload : Workload App} {key : ConnectionId} {event : WorkloadEvent App}

/-- A connect event is under way that may still register the connection. -/
def Awaits (workload : Workload App) (key : ConnectionId) : Prop :=
  ∃ errand ∈ workload.errands, errand.awaits? = some key

/-- The connection belongs to nobody, its socket is closed, and nobody is about to register it. -/
structure Displaced (key : ConnectionId) (workload : Workload App) : Prop where
  unbound : workload.server.gateway.clients.lookup key = none
  closed : workload.server.hub.isClosed key = true
  opened : key ∈ workload.opened
  unawaited : ¬ workload.Awaits key

theorem Displaced.fences (displaced : workload.Displaced key) (orderly : workload.Orderly) :
    workload.server.Fences key :=
  Server.fences_of_closed displaced.unbound displaced.closed (orderly.settled key displaced.closed)
    orderly.rooms

/-- Whatever happens next, the connection stays out if it is not presented. -/
theorem Displaced.perform (displaced : workload.Displaced key) (orderly : workload.Orderly)
    (allowed : event.Confined) (absent : event.presents? ≠ some key) :
    (workload.perform event).Displaced key := by
  have passage := (perform_passage orderly.confined orderly.consistent allowed).1
  have notEntering : workload.enters? event ≠ some key := by
    intro entering
    cases event with
    | advance index now =>
      obtain ⟨errand, isAt, awaits⟩ := Option.bind_eq_some_iff.mp entering
      exact displaced.unawaited ⟨errand, List.mem_of_getElem? isAt, awaits⟩
    | register id connection option =>
      simp only [enters?] at entering
      split at entering
      · exact absent entering
      · cases entering
    | _ => cases entering
  refine ⟨?_, ?_, ?_, ?_⟩
  · cases found : (workload.perform event).server.gateway.clients.lookup key with
    | none => rfl
    | some id =>
      have belongs : ((workload.perform event).stores.1.lookup key).isSome := by
        rw [stores, found]
        rfl
      rcases passage.lookup orderly.consistent belongs with entering | belonged
      · exact absurd entering notEntering
      · rw [stores, displaced.unbound] at belonged
        cases belonged
  · exact passage.closed (fun opens => not_mem_of_opens? opens displaced.opened) displaced.closed
  · exact (mem_opened_perform event).mpr (Or.inr displaced.opened)
  · rintro ⟨errand, among, awaits⟩
    rcases awaited_perform among awaits with before | ⟨presented, -⟩
    · exact displaced.unawaited before
    · exact absent presented

theorem Displaced.run (displaced : workload.Displaced key) (orderly : workload.Orderly)
    {events : List (WorkloadEvent App)} (allowed : ∀ event ∈ events, event.Confined)
    (absent : ∀ event ∈ events, event.presents? ≠ some key) :
    (workload.run events).Displaced key := by
  induction events generalizing workload with
  | nil => exact displaced
  | cons event rest inductionHypothesis =>
    rw [List.forall_mem_cons] at allowed absent
    exact inductionHypothesis (displaced.perform orderly allowed.1 absent.1)
      (orderly.perform allowed.1) allowed.2 absent.2

/-- A connection that loses its client is displaced, and nothing else happens to the hub. -/
theorem Orderly.displaces (orderly : workload.Orderly) (allowed : event.Confined) {id : ClientId}
    (bound : workload.server.gateway.clients.lookup key = some id)
    (lost : (workload.perform event).server.gateway.clients.lookup key = none)
    (unawaited : ¬ (workload.perform event).Awaits key) :
    (workload.perform event).Displaced key ∧
      (workload.perform event).server.hub = workload.server.hub.disconnect key := by
  have passage := (perform_passage orderly.confined orderly.consistent allowed).1
  have belonged : (workload.server.gateway.clients.lookup key).isSome := by
    rw [bound]
    rfl
  have disconnected : (workload.perform event).server.hub = workload.server.hub.disconnect key :=
    passage.displaces orderly.consistent belonged lost
  refine ⟨⟨lost, ?_, ?_, unawaited⟩, disconnected⟩
  · rw [disconnected, Hub.isClosed_disconnect]
    simp
  · exact (mem_opened_perform event).mpr (Or.inr (orderly.bound key belonged))

/-- In any run in which a connection loses its client, because that is registered on another one or
because the connection is deregistered: the hub does nothing at this moment but disconnect the
connection, so all others are in the rooms where they were. From then on the connection is fenced
off, whatever happens, unless it is presented to be registered again. Whenever the client is on a
connection, that is another one, from which it acts and on which alone it is reached. -/
theorem displaced_is_fenced (config : Config) (clock : Clock) (app : App)
    (before later : List (WorkloadEvent App)) (event : WorkloadEvent App) (id : ClientId)
    (key : ConnectionId) (allowed : ∀ happens ∈ before ++ event :: later, happens.Confined)
    (bound : ((start config clock app).run before).server.gateway.clients.lookup key = some id)
    (lost : ((start config clock app).run (before ++ [event])).server.gateway.clients.lookup key =
      none)
    (unawaited : ¬ ((start config clock app).run (before ++ [event])).Awaits key)
    (absent : ∀ happens ∈ later, happens.presents? ≠ some key) :
    let past := (start config clock app).run before
    let moment := (start config clock app).run (before ++ [event])
    let server := ((start config clock app).run (before ++ event :: later)).server
    server.Fences key ∧
    (∀ fresh, server.gateway.clients.lookup fresh = some id →
      fresh ≠ key ∧ server.Serves id fresh) ∧
    moment.server.hub = past.server.hub.disconnect key ∧
    ∀ other, other ≠ key → moment.server.hub.roomsOf other = past.server.hub.roomsOf other ∧
      ∀ room, other ∈ moment.server.hub.membersOf room ↔
        other ∈ past.server.hub.membersOf room := by
  intro past moment server
  rw [List.forall_mem_append, List.forall_mem_cons] at allowed
  obtain ⟨allowedBefore, allowedNow, allowedLater⟩ := allowed
  have orderly : past.Orderly := (orderly_start config clock app).run allowedBefore
  have isMoment : moment = past.perform event := run_append _ before [event]
  have isServer : server = (moment.run later).server := by
    rw [isMoment]
    exact congrArg Workload.server (run_append _ before (event :: later))
  have orderlyMoment : moment.Orderly := isMoment ▸ orderly.perform allowedNow
  obtain ⟨displaced, disconnected⟩ :
      moment.Displaced key ∧ moment.server.hub = past.server.hub.disconnect key := by
    rw [isMoment]
    exact orderly.displaces allowedNow bound (isMoment ▸ lost) (isMoment ▸ unawaited)
  have orderlyLater := orderlyMoment.run allowedLater
  have displacedLater := displaced.run orderlyMoment allowedLater absent
  rw [isServer]
  refine ⟨displacedLater.fences orderlyLater, ?_, disconnected, ?_⟩
  · intro fresh belongs
    refine ⟨?_, Server.serves_of_lookup orderlyLater.consistent belongs⟩
    rintro rfl
    cases belongs.symm.trans displacedLater.unbound
  · intro other different
    have spares := past.server.hub.spares_disconnect different.symm
    rw [disconnected]
    exact ⟨spares.roomsOf, fun room => spares.mem_membersOf⟩

/-- A client comes, joins a room and comes back on another connection. -/
def comeback : List (WorkloadEvent Journal) :=
  [.setAdapter (StockHandler.adaptor (Hub.transport Journal) Network.note
      [("join", some .join), ("echo", some .echo)]),
    .openSocket ⟨"a"⟩, .authenticate (Handshake.withQuery {} "token" "u1") ⟨"s"⟩, .advance 0 0,
    .advance 0 0, .connect ⟨"s"⟩ ⟨"a"⟩, .advance 1 0, .advance 1 0, .advance 1 0,
    .dispatch ⟨"a"⟩ { event := "join", data := .string "hall" },
    .openSocket ⟨"b"⟩, .authenticate (Handshake.withQuery {} "token" "u1") ⟨"t"⟩, .advance 2 0,
    .advance 2 0, .connect ⟨"t"⟩ ⟨"b"⟩, .advance 3 0]

/-- A frame and the disconnect event of the former connection are late, the client is signaled, and
the former connection is released. -/
def aftermath : List (WorkloadEvent Journal) :=
  [.advance 3 0, .dispatch ⟨"a"⟩ { event := "echo" }, .disconnect ⟨"a"⟩, .advance 4 0,
    .signal ⟨"u1"⟩ "hi" .null, .call (.broadcast ⟨"b"⟩ "hall" "hi" .null), .release ⟨"a"⟩]

theorem comeback_is_fenced :
    ((start {} (.fixed 0) []).run comeback).server.hub.roomsOf ⟨"a"⟩ = ["hall"] ∧
      ((start {} (.fixed 0) []).run (comeback ++ [.advance 3 0])).server.hub.roomsOf ⟨"b"⟩ = [] ∧
      ((start {} (.fixed 0) []).run (comeback ++ .advance 3 0 :: aftermath)).server.Fences ⟨"a"⟩ ∧
      ((start {} (.fixed 0) []).run (comeback ++ .advance 3 0 :: aftermath)).server.Serves
        ⟨"u1"⟩ ⟨"b"⟩ := by
  have allowed : ∀ happens ∈ comeback ++ .advance 3 0 :: aftermath, happens.Confined := by
    refine List.forall_mem_cons.mpr ⟨?_, by simp [aftermath, WorkloadEvent.Confined]⟩
    intro event handler supplied connection id data world
    obtain ⟨stock, -, rfl⟩ := Option.map_eq_some_iff.mp supplied
    exact stock.handler_reaches (fun _ => rfl) connection id data world
  have bound : ((start {} (.fixed 0) []).run comeback).server.gateway.clients.lookup ⟨"a"⟩ =
      some ⟨"u1"⟩ := by decide +kernel
  have lost : ((start {} (.fixed 0) []).run
      (comeback ++ [.advance 3 0])).server.gateway.clients.lookup ⟨"a"⟩ = none := by
    decide +kernel
  have unawaited : ¬ ((start {} (.fixed 0) []).run (comeback ++ [.advance 3 0])).Awaits ⟨"a"⟩ := by
    unfold Awaits
    decide +kernel
  have absent : ∀ happens ∈ aftermath, happens.presents? ≠ some ⟨"a"⟩ := by decide
  have belongs : ((start {} (.fixed 0) []).run
      (comeback ++ .advance 3 0 :: aftermath)).server.gateway.clients.lookup ⟨"b"⟩ =
        some ⟨"u1"⟩ := by
    decide +kernel
  obtain ⟨fences, serves, -, carried⟩ := displaced_is_fenced {} (.fixed 0) [] comeback aftermath
    (.advance 3 0) ⟨"u1"⟩ ⟨"a"⟩ allowed bound lost unawaited absent
  exact ⟨by decide +kernel, (carried ⟨"b"⟩ (by decide)).1.trans (by decide +kernel), fences,
    (serves ⟨"b"⟩ belongs).2⟩

end Workload

end SocketGateway
