import SocketGateway.Proofs.Rooms.Updates
import SocketGateway.Proofs.Server.Passages
import SocketGateway.Proofs.Session.Applications

/-!
Contract: a server in use by anybody who has a connection, a client's id or the registry in hand.

Owns:
- runs of authentications, connect and disconnect events, step by step in any order, between which
  sockets are opened, released and called, frames are dispatched, clients are signaled, registered,
  deregistered and marked, groups and rooms recorded, and hooks and handlers replaced;
- that each event is one passage, which registers no connection and opens no socket but its own;
- what every run keeps.

A connection has to be opened before it is registered, and is opened once. Hooks and handlers may
answer anything, but act on the hub by calls on sockets only.

Does not own: what follows for a connection.
-/

namespace SocketGateway

/-- An event of a connection that is under way. -/
inductive Errand where
  | vetting (request : Handshake) (fresh : CorrelationToken) (stage : Vetting)
  | arriving (id : ConnectionId) (stage : Arrival)
  | leaving (id : ConnectionId) (stage : Departure)

/-- A server, all connections that were opened, and all events that ever began. -/
structure Workload (App : Type) where
  server : Server App
  opened : List ConnectionId := []
  errands : List Errand := []

/-- What may happen next. -/
inductive WorkloadEvent (App : Type) where
  | authenticate (request : Handshake) (fresh : CorrelationToken)
  | connect (token : CorrelationToken) (id : ConnectionId)
  | disconnect (id : ConnectionId)
  /-- The next step of an authentication, a connect event or a disconnect event. -/
  | advance (index now : Nat)
  | reserve
  | dropReservation
  | openSocket (id : ConnectionId)
  | release (id : ConnectionId)
  | call (call : SocketCall)
  | dispatch (id : ConnectionId) (frame : ClientFrame)
  | signal (id : ClientId) (event : String) (data : Json)
  | register (id : ClientId) (connection : ConnectionId) (option : String)
  | deregister (connection : ConnectionId)
  | idle (id : ClientId)
  | leaveIdle (id : ClientId)
  | setOption (id : ClientId) (option : String)
  | record (id : ClientId) (update : RoomUpdate)
  | setHooks (hooks : Hooks (Hub × App))
  | setAdapter (adaptor : Adaptor (Hub × App))

namespace Errand

variable {App : Type}

/-- Takes the next step of an event. -/
def step (now : Nat) (errand : Errand) (server : Server App) : Errand × Server App :=
  match errand with
  | .vetting request fresh stage =>
    let next := Gateway.vet request fresh now (stage, server.gateway, server.world)
    (.vetting request fresh next.1, Server.update next.2.1 next.2.2)
  | .arriving id stage =>
    let next := Gateway.arrive (Hub.transport App) (Hub.connection id) now
      (stage, server.gateway, server.world)
    (.arriving id next.1, Server.update next.2.1 next.2.2)
  | .leaving id stage =>
    let next := Gateway.depart (Hub.transport App) (Hub.connection id)
      (stage, server.gateway, server.world)
    (.leaving id next.1, Server.update next.2.1 next.2.2)

/-- The connection that the event has still to register. -/
def awaits? : Errand → Option ConnectionId
  | .arriving id stage => if stage.isDecided then none else some id
  | _ => none

end Errand

/-- The connection that an event presents to be registered. -/
def WorkloadEvent.presents? {App : Type} : WorkloadEvent App → Option ConnectionId
  | .connect _ id => some id
  | .register _ id _ => some id
  | _ => none

/-- Hooks and handlers that are installed act on the hub by calls on sockets only. -/
def WorkloadEvent.Confined {App : Type} : WorkloadEvent App → Prop
  | .setHooks hooks => hooks.Confined true
  | .setAdapter adaptor => ∀ (event : String) (handler : Handler (Hub × App)),
      adaptor.handler? event = some handler → ∀ connection id data world,
        Hub.Reaches true world.1 (handler connection id data world).2.1
  | _ => True

/-- The hooks and the handlers of a gateway act on the hub by calls on sockets only. -/
structure Gateway.Confined {App : Type} (gateway : Gateway (Hub × App)) : Prop where
  hooks : gateway.hooks.Confined true
  handlers : gateway.signaling.Confined true

private theorem Gateway.Confined.of_settings {App : Type} {gateway next : Gateway (Hub × App)}
    (confined : gateway.Confined) (settings : gateway.SameSettings next) : next.Confined where
  hooks := settings.hooks ▸ confined.hooks
  handlers := settings.signaling ▸ confined.handlers

namespace Workload

variable {App : Type}

/-- The server after its gateway changed beside the hub. -/
def withGateway (workload : Workload App) (gateway : Gateway (Hub × App)) : Workload App :=
  { workload with server := { workload.server with gateway := gateway } }

def perform (workload : Workload App) : WorkloadEvent App → Workload App
  | .authenticate request fresh =>
    { workload with errands := workload.errands ++ [.vetting request fresh .due] }
  | .connect token id =>
    if id ∈ workload.opened then
      { workload with errands := workload.errands ++ [.arriving id (.due token)] }
    else workload
  | .disconnect id => { workload with errands := workload.errands ++ [.leaving id .due] }
  | .advance index now =>
    match workload.errands[index]? with
    | none => workload
    | some errand =>
      let next := errand.step now workload.server
      { workload with server := next.2, errands := workload.errands.set index next.1 }
  | .reserve =>
    match workload.server.reserve? with
    | none => workload
    | some server => { workload with server := server }
  | .dropReservation => { workload with server := workload.server.dropReservation }
  | .openSocket id =>
    if id ∈ workload.opened then workload
    else { workload with server := workload.server.openSocket id, opened := id :: workload.opened }
  | .release id => { workload with server := workload.server.release id }
  | .call call =>
    { workload with server := { workload.server with hub := workload.server.hub.call call } }
  | .dispatch id frame => { workload with server := (workload.server.respond id frame).2 }
  | .signal id event data => { workload with server := (workload.server.signal id event data).2 }
  | .register id connection option =>
    if connection ∈ workload.opened then
      let outcome := workload.server.gateway.register (Hub.transport App) id
        (Hub.connection connection) option workload.server.world
      { workload with server := Server.update outcome.2.1 outcome.2.2 }
    else workload
  | .deregister connection =>
    let outcome := workload.server.gateway.deregister (Hub.transport App)
      (Hub.connection connection) workload.server.world
    { workload with server := Server.update outcome.2.1 outcome.2.2 }
  | .idle id => workload.withGateway (workload.server.gateway.idle id).2
  | .leaveIdle id =>
    let gateway := workload.server.gateway
    workload.withGateway { gateway with clients := gateway.clients.leaveIdle id }
  | .setOption id option =>
    let gateway := workload.server.gateway
    workload.withGateway { gateway with clients := (gateway.clients.setOption id option).2 }
  | .record id update =>
    let gateway := workload.server.gateway
    workload.withGateway { gateway with rooms := update.apply id gateway.rooms }
  | .setHooks hooks => workload.withGateway (workload.server.gateway.setHooks hooks)
  | .setAdapter adaptor => workload.withGateway (workload.server.gateway.setAdapter adaptor)

/-- A new server. -/
def start (config : Config) (clock : Clock) (app : App) : Workload App where
  server := { gateway := .new config clock, app := app }

/-- A server in use after these events. -/
def run (workload : Workload App) (events : List (WorkloadEvent App)) : Workload App :=
  events.foldl perform workload

theorem run_append (workload : Workload App) (first second : List (WorkloadEvent App)) :
    workload.run (first ++ second) = (workload.run first).run second :=
  List.foldl_append

/-- The connection that an event may register. -/
def enters? (workload : Workload App) : WorkloadEvent App → Option ConnectionId
  | .advance index _ => workload.errands[index]?.bind Errand.awaits?
  | .register _ id _ => if id ∈ workload.opened then some id else none
  | _ => none

/-- The socket that an event opens. -/
def opens? (workload : Workload App) : WorkloadEvent App → Option ConnectionId
  | .openSocket id => if id ∈ workload.opened then none else some id
  | _ => none

/-! ### Events are passages -/

/-- The registry and the hub of the server. -/
def stores (workload : Workload App) : ClientRegistry × Hub :=
  (workload.server.gateway.clients, workload.server.hub)

variable {workload : Workload App}

/-- A connect event is entering until its client was put into the registry, or never will be. -/
theorem standing_arriving (stage : Arrival) :
    ((Phase.arriving stage).standing = .entering ↔ stage.isDecided = false) ∧
      (Phase.arriving stage).standing ≠ .waiting := by
  cases stage with
  | due | admitted | registered => simp [Phase.standing, Arrival.isDecided]
  | spurned cause =>
    cases rejection : cause.isRejection <;>
      simp [Phase.standing, Arrival.isDecided, rejection]
  | settled answer =>
    rcases Standing.ofAnswer_cases answer with outcome | outcome | outcome <;>
      simp [Phase.standing, Arrival.isDecided, outcome]

/-- A step of an event is a passage, which registers the connection only if it is awaited. -/
theorem step_passage (confined : workload.server.gateway.Confined)
    (consistent : workload.server.gateway.clients.Consistent) (errand : Errand) (now : Nat) :
    let server := workload.server
    let next := (errand.step now server).2
    Passage errand.awaits? none (server.gateway.clients, server.hub)
        (next.gateway.clients, next.hub) ∧
      server.gateway.SameSettings next.gateway := by
  cases errand with
  | vetting request fresh stage =>
    obtain ⟨clients, reaches, settings⟩ :=
      vet_turn confined.hooks workload.server.world request fresh now stage
    refine ⟨?_, settings⟩
    simp only [Errand.step, Server.update, clients]
    exact .calls reaches
  | arriving id stage =>
    obtain ⟨turn, settings⟩ :=
      arrive_turn confined.hooks consistent workload.server.world 0 id now stage
    refine ⟨?_, settings⟩
    obtain ⟨entering, notWaiting⟩ := standing_arriving stage
    have passage := turn.passage
    rw [if_neg notWaiting] at passage
    simp only [entering, ← Bool.not_eq_true, ite_not] at passage
    exact passage
  | leaving id stage =>
    obtain ⟨turn, settings⟩ :=
      depart_turn confined.hooks workload.server.world 0 id (.error .noPendingBind) stage
    have closing : (Phase.leaving (.error .noPendingBind) stage).standing = .closing := by
      cases stage <;> rfl
    rw [closing] at turn
    exact ⟨turn.passage, settings⟩

/-- Every event is a passage, and leaves hooks and handlers as they have to be. -/
theorem perform_passage (confined : workload.server.gateway.Confined)
    (consistent : workload.server.gateway.clients.Consistent) {event : WorkloadEvent App}
    (allowed : event.Confined) :
    Passage (workload.enters? event) (workload.opens? event) workload.stores
        (workload.perform event).stores ∧
      (workload.perform event).server.gateway.Confined := by
  let clients := workload.server.gateway.clients
  cases event with
  | authenticate request fresh => exact ⟨.refl _ _ _, confined⟩
  | connect token id =>
    simp only [perform]
    split <;> exact ⟨.refl _ _ _, confined⟩
  | disconnect id => exact ⟨.refl _ _ _, confined⟩
  | advance index now =>
    simp only [perform, enters?]
    cases isAt : workload.errands[index]? with
    | none => exact ⟨.refl _ _ _, confined⟩
    | some errand =>
      obtain ⟨passage, settings⟩ := step_passage confined consistent errand now
      exact ⟨passage, confined.of_settings settings⟩
  | reserve =>
    simp only [perform, Server.reserve?]
    cases reserved : workload.server.hub.reserve? workload.server.gateway.config.maxConnections with
    | none => exact ⟨.refl _ _ _, confined⟩
    | some hub =>
      obtain ⟨-, rfl⟩ := Hub.reserve?_eq_some reserved
      exact ⟨.recount _, confined⟩
  | dropReservation => exact ⟨.recount _, confined⟩
  | openSocket id =>
    simp only [perform, opens?]
    split
    · exact ⟨.refl _ _ _, confined⟩
    · exact ⟨.openSocket rfl, confined⟩
  | release id => exact ⟨.release id, confined⟩
  | call call => exact ⟨.calls (Hub.reaches_call _ call fun _ => rfl), confined⟩
  | dispatch id frame =>
    obtain ⟨sameGateway, reaches⟩ := workload.server.respond_aside confined.handlers id frame
    exact ⟨.calls reaches, confined⟩
  | signal id event data =>
    obtain ⟨sameGateway, reaches⟩ := workload.server.signal_aside true id event data
    exact ⟨.calls reaches, confined⟩
  | register id connection option =>
    simp only [perform, enters?]
    split
    · next isOpened =>
      simp only [Gateway.register, Hub.disconnectAny_transport]
      exact ⟨.register id (Hub.connection connection) option _ rfl, confined.hooks,
        confined.handlers⟩
    · exact ⟨.refl _ _ _, confined⟩
  | deregister connection =>
    simp only [perform, Gateway.deregister, Hub.disconnectAny_transport]
    exact ⟨.deregister (Hub.connection connection), confined.hooks, confined.handlers⟩
  | idle id =>
    refine ⟨.note (fun consistent => consistent.idle id _) ?_, confined.hooks, confined.handlers⟩
    show (clients.idle id workload.server.gateway.clock.now).2.owners = clients.owners
    rw [ClientRegistry.idle]
    split <;> rfl
  | leaveIdle id =>
    exact ⟨.note (fun consistent => consistent.leaveIdle id) rfl, confined.hooks, confined.handlers⟩
  | setOption id option =>
    refine ⟨.note (fun consistent => consistent.setOption id option) ?_, confined.hooks,
      confined.handlers⟩
    show (clients.setOption id option).2.owners = clients.owners
    rw [ClientRegistry.setOption_eq]
  | record id update => exact ⟨.refl _ _ _, confined.hooks, confined.handlers⟩
  | setHooks hooks => exact ⟨.refl _ _ _, allowed, confined.handlers⟩
  | setAdapter adaptor =>
    refine ⟨.refl _ _ _, confined.hooks, ?_⟩
    intro event handler found
    rcases Signaling.setAdapter_origin found with before | ⟨other, supplied⟩
    · exact confined.handlers event handler before
    · exact allowed other handler supplied

/-! ### What every run keeps -/

/-- What every run keeps of a server in use. -/
structure Orderly (workload : Workload App) : Prop where
  confined : workload.server.gateway.Confined
  consistent : workload.server.gateway.clients.Consistent
  rooms : workload.server.hub.Consistent
  settled : workload.server.hub.Settled
  peers : ∀ id ∈ workload.server.hub.peers, id ∈ workload.opened
  bound : ∀ id, (workload.server.gateway.clients.lookup id).isSome → id ∈ workload.opened
  awaited : ∀ errand ∈ workload.errands, ∀ id, errand.awaits? = some id → id ∈ workload.opened

theorem orderly_start (config : Config) (clock : Clock) (app : App) :
    (start config clock app).Orderly where
  confined := by
    refine ⟨⟨nofun, nofun, nofun⟩, ?_⟩
    intro event handler found
    simp [start, Gateway.new] at found
  consistent := ClientRegistry.consistent_empty
  rooms := Hub.consistent_empty
  settled := Hub.settled_empty
  peers := by simp [start]
  bound := by simp [start, Gateway.new, ClientRegistry.lookup]
  awaited := by simp [start]

/-- Only what is opened is added to what was opened. -/
theorem mem_opened_perform (event : WorkloadEvent App) {id : ConnectionId} :
    id ∈ (workload.perform event).opened ↔
      workload.opens? event = some id ∨ id ∈ workload.opened := by
  cases event with
  | openSocket opening =>
    simp only [perform, opens?]
    split <;> simp [eq_comm]
  | connect token connection =>
    simp only [perform]
    split <;> simp [opens?]
  | register client connection option =>
    simp only [perform]
    split <;> simp [opens?]
  | advance index now =>
    simp only [perform]
    cases workload.errands[index]? <;> simp [opens?]
  | reserve =>
    simp only [perform]
    cases workload.server.reserve? <;> simp [opens?]
  | _ => simp [perform, opens?, withGateway]

theorem not_mem_of_opens? {event : WorkloadEvent App} {id : ConnectionId}
    (opens : workload.opens? event = some id) : id ∉ workload.opened := by
  cases event with
  | openSocket opening =>
    simp only [opens?] at opens
    split at opens
    · cases opens
    · next notOpened => exact Option.some.inj opens ▸ notOpened
  | _ => cases opens

/-- A connect event that is decided stays decided. -/
theorem awaits?_step {errand : Errand} {now : Nat} {server : Server App} {id : ConnectionId}
    (awaits : (errand.step now server).1.awaits? = some id) : errand.awaits? = some id := by
  cases errand with
  | arriving connection stage =>
    simp only [Errand.step, Errand.awaits?] at awaits ⊢
    cases decided : stage.isDecided with
    | true =>
      rw [if_pos (Gateway.isDecided_arrive _ _ _ _ _ decided)] at awaits
      cases awaits
    | false =>
      split at awaits
      · cases awaits
      · exact awaits
  | _ => cases awaits

/-- A connection is awaited only if it was before, or is presented now. -/
theorem awaited_perform {event : WorkloadEvent App} {errand : Errand} {id : ConnectionId}
    (among : errand ∈ (workload.perform event).errands) (awaits : errand.awaits? = some id) :
    (∃ before ∈ workload.errands, before.awaits? = some id) ∨
      (event.presents? = some id ∧ id ∈ workload.opened) := by
  cases event with
  | authenticate request fresh =>
    rcases List.mem_append.mp among with before | isNew
    · exact Or.inl ⟨errand, before, awaits⟩
    · cases List.mem_singleton.mp isNew
      cases awaits
  | disconnect connection =>
    rcases List.mem_append.mp among with before | isNew
    · exact Or.inl ⟨errand, before, awaits⟩
    · cases List.mem_singleton.mp isNew
      cases awaits
  | connect token connection =>
    simp only [perform] at among
    split at among
    · next isOpened =>
      rcases List.mem_append.mp among with before | isNew
      · exact Or.inl ⟨errand, before, awaits⟩
      · cases List.mem_singleton.mp isNew
        cases awaits
        exact Or.inr ⟨rfl, isOpened⟩
    · exact Or.inl ⟨errand, among, awaits⟩
  | advance index now =>
    simp only [perform] at among
    cases isAt : workload.errands[index]? with
    | none =>
      rw [isAt] at among
      exact Or.inl ⟨errand, among, awaits⟩
    | some taken =>
      rw [isAt] at among
      rcases List.mem_or_eq_of_mem_set among with before | rfl
      · exact Or.inl ⟨errand, before, awaits⟩
      · exact Or.inl ⟨taken, List.mem_of_getElem? isAt, awaits?_step awaits⟩
  | register client connection option =>
    simp only [perform] at among
    split at among <;> exact Or.inl ⟨errand, among, awaits⟩
  | openSocket connection =>
    simp only [perform] at among
    split at among <;> exact Or.inl ⟨errand, among, awaits⟩
  | reserve =>
    simp only [perform] at among
    split at among <;> exact Or.inl ⟨errand, among, awaits⟩
  | _ => exact Or.inl ⟨errand, among, awaits⟩

theorem Orderly.perform (orderly : workload.Orderly) {event : WorkloadEvent App}
    (allowed : event.Confined) : (workload.perform event).Orderly := by
  obtain ⟨passage, confined⟩ := perform_passage orderly.confined orderly.consistent allowed
  have entered : ∀ id, workload.enters? event = some id → id ∈ workload.opened := by
    intro id entering
    cases event with
    | advance index now =>
      obtain ⟨errand, isAt, awaits⟩ := Option.bind_eq_some_iff.mp entering
      exact orderly.awaited errand (List.mem_of_getElem? isAt) id awaits
    | register client connection option =>
      simp only [enters?] at entering
      split at entering
      · next isOpened => exact Option.some.inj entering ▸ isOpened
      · cases entering
    | _ => cases entering
  exact {
    confined := confined
    consistent := passage.consistent orderly.consistent
    rooms := by
      refine passage.rooms (fun id opens isPeer => ?_) orderly.rooms
      exact not_mem_of_opens? opens (orderly.peers id isPeer)
    settled := passage.settled orderly.settled
    peers := fun id isPeer =>
      (mem_opened_perform event).mpr ((passage.mem_peers isPeer).imp_right (orderly.peers id))
    bound := by
      intro id belongs
      refine (mem_opened_perform event).mpr (Or.inr ?_)
      exact (passage.lookup orderly.consistent belongs).elim (entered id) (orderly.bound id)
    awaited := by
      intro errand among id awaits
      refine (mem_opened_perform event).mpr (Or.inr ?_)
      rcases awaited_perform among awaits with ⟨before, amongBefore, awaitsBefore⟩ | ⟨-, isOpened⟩
      · exact orderly.awaited before amongBefore id awaitsBefore
      · exact isOpened }

theorem Orderly.run (orderly : workload.Orderly) {events : List (WorkloadEvent App)}
    (allowed : ∀ event ∈ events, event.Confined) : (workload.run events).Orderly := by
  induction events generalizing workload with
  | nil => exact orderly
  | cons event rest inductionHypothesis =>
    rw [List.forall_mem_cons] at allowed
    exact inductionHypothesis (orderly.perform allowed.1) allowed.2

end Workload

end SocketGateway
