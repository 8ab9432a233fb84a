import SocketGateway.Proofs.Server.Passages
import SocketGateway.Proofs.Session.Phases

/-!
Contract: what an action of a session does to registry and hub.

Owns:
- what a session has at each phase: a slot, a socket, a client;
- the turns: all that one action of a session may do to these, to the registry and to the hub, and
  that each of them is a passage of the server;
- that every action of a session is such a turn, if the hooks do no more on the hub than calls on
  sockets.

Does not own: several sessions.
-/

namespace SocketGateway

/-- What a session has. -/
inductive Standing where
  /-- Nothing, since it has no slot yet or has given everything back. -/
  | outside
  /-- A reserved slot. -/
  | waiting
  /-- An open socket. -/
  | entering
  /-- A socket with a client. -/
  | online
  /-- A client that was refused, and a socket that was closed on this account. -/
  | dismissed
  /-- A socket that is to be released. -/
  | closing
deriving DecidableEq, Repr

namespace Standing

/-- Whether a client may be bound to the connection. -/
def mayBind : Standing → Bool
  | .online => true
  | .dismissed => true
  | _ => false

/-- Whether the socket may be open. -/
def mayBeOpen : Standing → Bool
  | .outside => false
  | .waiting => false
  | _ => true

end Standing

/-- The connect hook refused the client. -/
def ConnectError.isRejection : ConnectError → Bool
  | .rejected _ => true
  | _ => false

/-- What a session has once its connect event was answered. -/
def Standing.ofAnswer : Except ConnectError ClientId → Standing
  | .ok _ => .online
  | .error cause => if cause.isRejection then .dismissed else .closing

def Phase.standing : Phase → Standing
  | .vetting _ => .waiting
  | .arriving (.due _) => .entering
  | .arriving (.admitted _) => .entering
  | .arriving (.registered _) => .online
  | .arriving (.spurned cause) => if cause.isRejection then .online else .closing
  | .arriving (.settled answer) => .ofAnswer answer
  | .leaving answer .due => .ofAnswer answer
  | .leaving _ _ => .closing
  | _ => .outside

private theorem Standing.ofAnswer_error (cause : ConnectError) :
    Standing.ofAnswer (.error cause) = .dismissed ∨
      Standing.ofAnswer (.error cause) = .closing := by
  rw [ofAnswer]
  cases cause.isRejection <;> simp

theorem Standing.ofAnswer_cases (answer : Except ConnectError ClientId) :
    Standing.ofAnswer answer = .online ∨ Standing.ofAnswer answer = .dismissed ∨
      Standing.ofAnswer answer = .closing := by
  cases answer with
  | ok client => exact Or.inl rfl
  | error cause => exact Or.inr (ofAnswer_error cause)

/-- What one action of the session on the connection `key` may do. `mayClose` tells whether its
hooks may close sockets. -/
inductive Turn (mayClose : Bool) (capacity : Nat) (key : ConnectionId) :
    Standing × ClientRegistry × Hub → Standing × ClientRegistry × Hub → Prop where
  | calls {standing : Standing} {clients : ClientRegistry} {hub after : Hub}
      (reaches : hub.Reaches mayClose after) :
      Turn mayClose capacity key (standing, clients, hub) (standing, clients, after)
  | reserve {clients : ClientRegistry} {hub after : Hub}
      (reserved : hub.reserve? capacity = some after) :
      Turn mayClose capacity key (.outside, clients, hub) (.waiting, clients, after)
  | giveBack {clients : ClientRegistry} {hub : Hub} :
      Turn mayClose capacity key (.waiting, clients, hub) (.outside, clients, hub.dropReservation)
  | openSocket {clients : ClientRegistry} {hub : Hub} :
      Turn mayClose capacity key (.waiting, clients, hub) (.entering, clients, hub.openSocket key)
  /-- The connect event found no client to bind. -/
  | turnAway {clients : ClientRegistry} {hub : Hub} :
      Turn mayClose capacity key (.entering, clients, hub) (.closing, clients, hub)
  | register {clients : ClientRegistry} {hub : Hub} (id : ClientId) (option : String)
      (now : Int64) :
      Turn mayClose capacity key (.entering, clients, hub)
        (.online, (clients.register id (Hub.connection key) option now).registry,
          hub.disconnectAny (clients.register id (Hub.connection key) option now).evicted)
  | dismiss {clients : ClientRegistry} {hub : Hub} :
      Turn mayClose capacity key (.online, clients, hub) (.dismissed, clients, hub.disconnect key)
  | close {standing : Standing} {clients : ClientRegistry} {hub : Hub}
      (ends : standing = .dismissed ∨ standing = .closing) :
      Turn mayClose capacity key (standing, clients, hub) (standing, clients, hub.disconnect key)
  | deregister {standing : Standing} {clients : ClientRegistry} {hub : Hub}
      (ends : standing = .online ∨ standing = .dismissed ∨ standing = .closing) :
      Turn mayClose capacity key (standing, clients, hub)
        (.closing, (clients.deregister (Hub.connection key)).registry,
          hub.disconnectAny (clients.deregister (Hub.connection key)).closed)
  | release {clients : ClientRegistry} {hub : Hub} :
      Turn mayClose capacity key (.closing, clients, hub) (.outside, clients, hub.release key)

/-! ### What a turn keeps -/

namespace Turn

variable {mayClose : Bool} {capacity : Nat} {key : ConnectionId}
  {before after : Standing × ClientRegistry × Hub}

/-- A turn is a passage. It registers the connection only while the session enters, and opens its
socket only while the session waits. -/
theorem passage (turn : Turn mayClose capacity key before after) :
    Passage (if before.1 = .entering then some key else none)
      (if before.1 = .waiting then some key else none) before.2 after.2 := by
  have disconnects : ∀ hub : Hub, hub.Reaches true (hub.disconnect key) :=
    fun hub => hub.reaches_call (.disconnect key) fun _ => rfl
  cases turn with
  | calls reaches => exact .calls reaches.weaken
  | reserve reserved =>
    obtain ⟨-, rfl⟩ := Hub.reserve?_eq_some reserved
    exact .recount _
  | giveBack => exact .recount _
  | openSocket => exact .openSocket rfl
  | turnAway => exact .refl _ _ _
  | register id option now => exact .register id (Hub.connection key) option now rfl
  | dismiss | close => exact .calls (disconnects _)
  | deregister => exact .deregister (Hub.connection key)
  | release => exact .release key

theorem consistent (turn : Turn mayClose capacity key before after)
    (consistent : before.2.1.Consistent) : after.2.1.Consistent :=
  turn.passage.consistent consistent

/-- Only the connection of the session may come to belong to a client. -/
theorem lookup (turn : Turn mayClose capacity key before after)
    (consistent : before.2.1.Consistent) {other : ConnectionId}
    (belongs : (after.2.1.lookup other).isSome) :
    key = other ∨ (before.2.1.lookup other).isSome := by
  refine (turn.passage.lookup consistent belongs).imp_left fun entering => ?_
  split at entering
  · exact Option.some.inj entering
  · cases entering

/-- The connection of the session belongs to a client only while it may. -/
theorem mayBind (turn : Turn mayClose capacity key before after)
    (consistent : before.2.1.Consistent)
    (may : (before.2.1.lookup key).isSome → before.1.mayBind = true)
    (belongs : (after.2.1.lookup key).isSome) : after.1.mayBind = true := by
  cases turn with
  | deregister =>
    have itself : (Hub.connection key).id = key := rfl
    dsimp only at belongs
    rw [ClientRegistry.lookup_deregister consistent, if_pos itself] at belongs
    cases belongs
  | register | dismiss => rfl
  | calls | close => exact may belongs
  | reserve | giveBack | openSocket | turnAway | release => cases may belongs

/-- Only the socket of the session may be opened. -/
theorem mem_peers (turn : Turn mayClose capacity key before after) {other : ConnectionId}
    (isPeer : other ∈ after.2.2.peers) : key = other ∨ other ∈ before.2.2.peers := by
  refine (turn.passage.mem_peers isPeer).imp_left fun opening => ?_
  split at opening
  · exact Option.some.inj opening
  · cases opening

/-- The socket of the session is open only while it may be. -/
theorem mayBeOpen (turn : Turn mayClose capacity key before after)
    (may : key ∈ before.2.2.peers → before.1.mayBeOpen = true)
    (isPeer : key ∈ after.2.2.peers) : after.1.mayBeOpen = true := by
  cases turn with
  | calls reaches => exact may (reaches.follows.peers isPeer)
  | reserve reserved =>
    obtain ⟨-, rfl⟩ := Hub.reserve?_eq_some reserved
    exact may isPeer
  | giveBack => exact may isPeer
  | openSocket | turnAway | register | dismiss | deregister => rfl
  | close ends => exact may ((Hub.follows_disconnect _ key).peers isPeer)
  | release => exact absurd rfl (Hub.mem_release.mp isPeer).1

theorem rooms (turn : Turn mayClose capacity key before after)
    (may : key ∈ before.2.2.peers → before.1.mayBeOpen = true)
    (consistent : before.2.2.Consistent) : after.2.2.Consistent := by
  refine turn.passage.rooms ?_ consistent
  intro id opening isPeer
  split at opening
  · next waits =>
    -- a session that waits has no socket yet
    cases opening
    have mayBeOpen := may isPeer
    rw [waits] at mayBeOpen
    cases mayBeOpen
  · cases opening

/-- A reservation is counted as long as the session waits with it. -/
theorem reserved (turn : Turn mayClose capacity key before after)
    (held : before.1 = .waiting → 0 < before.2.2.reserved) :
    after.2.2.reserved + (if before.1 = .waiting then 1 else 0) =
      before.2.2.reserved + (if after.1 = .waiting then 1 else 0) := by
  have notWaiting : ∀ {standing : Standing},
      standing = .online ∨ standing = .dismissed ∨ standing = .closing → standing ≠ .waiting := by
    rintro _ (rfl | rfl | rfl) <;> decide
  cases turn with
  | calls reaches => rw [reaches.follows.reserved]
  | reserve reserved =>
    obtain ⟨-, rfl⟩ := Hub.reserve?_eq_some reserved
    rfl
  | giveBack | openSocket => exact Nat.sub_add_cancel (held rfl)
  | turnAway => rfl
  | register => simp [(Hub.follows_disconnectAny _ _).reserved]
  | deregister ends =>
    simp [(Hub.follows_disconnectAny _ _).reserved, notWaiting ends]
  | dismiss => simp [(Hub.follows_disconnect _ key).reserved]
  | close ends => simp [(Hub.follows_disconnect _ key).reserved]
  | release => simp [(Hub.follows_release _ key).reserved]

theorem occupied_le (turn : Turn mayClose capacity key before after)
    (held : before.1 = .waiting → 0 < before.2.2.reserved)
    (fits : before.2.2.occupied ≤ capacity) : after.2.2.occupied ≤ capacity := by
  cases turn with
  | calls reaches => exact Nat.le_trans reaches.follows.occupied_le fits
  | reserve reserved =>
    have below := (Hub.reserve?_eq_some reserved).1
    have taken := Hub.occupied_reserve? reserved
    dsimp only at below taken ⊢
    omega
  | giveBack => exact Nat.le_trans (Hub.occupied_dropReservation _) fits
  | openSocket => exact Nat.le_trans (Hub.occupied_openSocket (held rfl) key) fits
  | turnAway => exact fits
  | register | deregister => exact Nat.le_trans (Hub.follows_disconnectAny _ _).occupied_le fits
  | dismiss | close => exact Nat.le_trans (Hub.follows_disconnect _ key).occupied_le fits
  | release => exact Nat.le_trans (Hub.follows_release _ key).occupied_le fits

/-- The sockets of other sessions stay open, but for one that a registration evicts. -/
theorem keeps_peers (turn : Turn false capacity key before after)
    (consistent : before.2.1.Consistent) {other : ConnectionId} (different : key ≠ other)
    (isPeer : other ∈ before.2.2.peers) :
    other ∈ after.2.2.peers ∨
      (before.2.1.lookup other).isSome ∧ after.2.1.lookup other = none := by
  cases turn with
  | calls reaches => exact Or.inl (reaches.mem_peers.mpr isPeer)
  | reserve reserved =>
    obtain ⟨-, rfl⟩ := Hub.reserve?_eq_some reserved
    exact Or.inl isPeer
  | giveBack | turnAway => exact Or.inl isPeer
  | openSocket => exact Or.inl (Hub.mem_openSocket.mpr (Or.inr isPeer))
  | @register clients hub id option now =>
    cases evicts : (clients.register id (Hub.connection key) option now).evicted with
    | none => exact Or.inl isPeer
    | some evicted =>
      by_cases itself : evicted.id = other
      · subst itself
        exact Or.inr (ClientRegistry.lookup_evicted consistent evicts)
      · exact Or.inl (Hub.mem_disconnect itself isPeer)
  | @deregister standing clients hub =>
    obtain ⟨closed, isClosed, sameId⟩ :=
      ClientRegistry.closed_deregister consistent (Hub.connection key)
    dsimp only
    rw [isClosed]
    exact Or.inl (Hub.mem_disconnect (sameId ▸ different) isPeer)
  | dismiss | close => exact Or.inl (Hub.mem_disconnect different isPeer)
  | release => exact Or.inl (Hub.mem_release.mpr ⟨different, isPeer⟩)

/-- While the connection of the session is used, its socket is open. -/
theorem seated (turn : Turn false capacity key before after)
    (consistent : before.2.1.Consistent)
    (seat : before.1 = .entering ∨ before.1 = .online ∧ (before.2.1.lookup key).isSome →
      key ∈ before.2.2.peers)
    (used : after.1 = .entering ∨ after.1 = .online ∧ (after.2.1.lookup key).isSome) :
    key ∈ after.2.2.peers := by
  cases turn with
  | calls reaches => exact reaches.mem_peers.mpr (seat used)
  | openSocket => exact Hub.mem_openSocket.mpr (Or.inl rfl)
  | @register clients hub id option now =>
    have isPeer : key ∈ hub.peers := seat (Or.inl rfl)
    cases evicts : (clients.register id (Hub.connection key) option now).evicted with
    | none => exact isPeer
    | some evicted =>
      -- if the own socket were evicted, its connection would belong to nobody
      have gone := (ClientRegistry.lookup_evicted consistent evicts).2
      refine Hub.mem_disconnect ?_ isPeer
      rintro rfl
      rcases used with used | ⟨-, belongs⟩
      · cases used
      · rw [gone] at belongs
        cases belongs
  | reserve | giveBack | turnAway | dismiss | deregister | release =>
    rcases used with used | ⟨used, -⟩ <;> cases used
  | close ends =>
    rcases ends with rfl | rfl <;> rcases used with used | ⟨used, -⟩ <;> cases used

end Turn

/-! ### Actions are turns -/

/-- The hooks act on the hub by calls on sockets only. -/
structure Hooks.Confined {App : Type} (mayClose : Bool) (hooks : Hooks (Hub × App)) :
    Prop where
  authenticate : ∀ hook, hooks.authenticate = some hook → ∀ token world,
    Hub.Reaches mayClose world.1 (hook token world).2.1
  connect : ∀ hook, hooks.connect = some hook → ∀ id option world,
    Hub.Reaches mayClose world.1 (hook id option world).2.1
  disconnect : ∀ hook, hooks.disconnect = some hook → ∀ id option world,
    Hub.Reaches mayClose world.1 (hook id option world).1

/-- The handlers act on the hub by calls on sockets only. -/
def Signaling.Confined {App : Type} (mayClose : Bool) (signaling : Signaling (Hub × App)) : Prop :=
  ∀ (event : String) (handler : Handler (Hub × App)), signaling.handlers[event]? = some handler →
    ∀ connection id data world, Hub.Reaches mayClose world.1 (handler connection id data world).2.1

structure Gateway.SameSettings {World : Type} (before after : Gateway World) : Prop where
  config : after.config = before.config
  hooks : after.hooks = before.hooks
  signaling : after.signaling = before.signaling

theorem Gateway.SameSettings.refl {World : Type} (gateway : Gateway World) :
    gateway.SameSettings gateway :=
  ⟨rfl, rfl, rfl⟩

theorem Gateway.SameSettings.trans {World : Type} {before middle after : Gateway World}
    (first : before.SameSettings middle) (second : middle.SameSettings after) :
    before.SameSettings after :=
  ⟨second.config.trans first.config, second.hooks.trans first.hooks,
    second.signaling.trans first.signaling⟩

section Actions

variable {App : Type} {mayClose : Bool} {gateway : Gateway (Hub × App)}

/-- An authentication only calls its hook. -/
theorem vet_turn (confined : gateway.hooks.Confined mayClose) (world : Hub × App)
    (request : Handshake) (fresh : CorrelationToken) (now : Nat) (stage : Vetting) :
    let next := Gateway.vet request fresh now (stage, gateway, world)
    next.2.1.clients = gateway.clients ∧ Hub.Reaches mayClose world.1 next.2.2.1 ∧
      gateway.SameSettings next.2.1 := by
  cases stage with
  | due =>
    simp only [Gateway.vet]
    cases Authentication.extractToken gateway.config.authPrefix request with
    | error cause => exact ⟨rfl, Hub.Reaches.refl mayClose world.1, .refl gateway⟩
    | ok token =>
      have reaches : Hub.Reaches mayClose world.1 (gateway.decide token world).2.1 := by
        unfold Gateway.decide
        cases installed : gateway.hooks.authenticate with
        | none => exact Hub.Reaches.refl mayClose world.1
        | some hook => exact confined.authenticate hook installed token world
      dsimp only
      generalize gateway.decide token world = decision at reaches ⊢
      obtain ⟨answer, after⟩ := decision
      cases answer <;> exact ⟨rfl, reaches, .refl gateway⟩
  | decided bind => exact ⟨rfl, Hub.Reaches.refl mayClose world.1, rfl, rfl, rfl⟩
  | settled answer => exact ⟨rfl, Hub.Reaches.refl mayClose world.1, .refl gateway⟩

theorem arrive_turn (confined : gateway.hooks.Confined mayClose)
    (consistent : gateway.clients.Consistent) (world : Hub × App) (capacity : Nat)
    (key : ConnectionId) (now : Nat) (stage : Arrival) :
    let next := Gateway.arrive (Hub.transport App) (Hub.connection key) now (stage, gateway, world)
    Turn mayClose capacity key ((Phase.arriving stage).standing, gateway.clients, world.1)
        ((Phase.arriving next.1).standing, next.2.1.clients, next.2.2.1) ∧
      gateway.SameSettings next.2.1 := by
  cases stage with
  | due token =>
    simp only [Gateway.arrive]
    obtain ⟨admission, pending⟩ := gateway.pending.beginConnect token now
    cases admission with
    | duplicate => exact ⟨.turnAway, rfl, rfl, rfl⟩
    | admitted taken =>
      cases taken with
      | none => exact ⟨.turnAway, rfl, rfl, rfl⟩
      | some bind => exact ⟨.calls (Hub.Reaches.refl mayClose _), rfl, rfl, rfl⟩
  | admitted bind =>
    have accepted := consistent.register_ok bind.client (Hub.connection key) bind.option
      gateway.clock.now
    simp only [Gateway.arrive, Gateway.register, accepted, Hub.disconnectAny_transport]
    exact ⟨.register bind.client bind.option gateway.clock.now, rfl, rfl, rfl⟩
  | registered bind =>
    simp only [Gateway.arrive]
    cases installed : gateway.hooks.connect with
    | none => exact ⟨.calls (Hub.Reaches.refl mayClose _), .refl gateway⟩
    | some hook =>
      have reaches := confined.connect hook installed bind.client bind.option world
      dsimp only
      generalize hook bind.client bind.option world = outcome at reaches ⊢
      obtain ⟨answer, after⟩ := outcome
      cases answer <;> exact ⟨.calls reaches, .refl gateway⟩
  | spurned cause =>
    refine ⟨?_, .refl gateway⟩
    cases rejection : cause.isRejection with
    | true =>
      simp only [Gateway.arrive, Phase.standing, Standing.ofAnswer, rejection, if_true]
      exact .dismiss
    | false =>
      simp only [Gateway.arrive, Phase.standing, Standing.ofAnswer, rejection, Bool.false_eq_true,
        if_false]
      exact .close (Or.inr rfl)
  | settled answer => exact ⟨.calls (Hub.Reaches.refl mayClose _), .refl gateway⟩

theorem depart_turn (confined : gateway.hooks.Confined mayClose) (world : Hub × App)
    (capacity : Nat) (key : ConnectionId) (answer : Except ConnectError ClientId)
    (stage : Departure) :
    let next := Gateway.depart (Hub.transport App) (Hub.connection key) (stage, gateway, world)
    Turn mayClose capacity key ((Phase.leaving answer stage).standing, gateway.clients, world.1)
        ((Phase.leaving answer next.1).standing, next.2.1.clients, next.2.2.1) ∧
      gateway.SameSettings next.2.1 := by
  cases stage with
  | due =>
    have ends := Standing.ofAnswer_cases answer
    simp only [Gateway.depart, Gateway.deregister, Hub.disconnectAny_transport]
    cases (gateway.clients.deregister (Hub.connection key)).departed with
    | none => exact ⟨.deregister ends, rfl, rfl, rfl⟩
    | some departed => exact ⟨.deregister ends, rfl, rfl, rfl⟩
  | clearing id option => exact ⟨.calls (Hub.Reaches.refl mayClose _), rfl, rfl, rfl⟩
  | telling id option =>
    simp only [Gateway.depart]
    cases installed : gateway.hooks.disconnect with
    | none => exact ⟨.calls (Hub.Reaches.refl mayClose _), .refl gateway⟩
    | some hook =>
      exact ⟨.calls (confined.disconnect hook installed id option world), .refl gateway⟩
  | settled departed => exact ⟨.calls (Hub.Reaches.refl mayClose _), .refl gateway⟩

end Actions

/-- Every action of a session is a turn, and leaves the settings alone. -/
theorem Session.advance_turn {App : Type} {mayClose : Bool} {server : Server App}
    (confined : server.gateway.hooks.Confined mayClose)
    (consistent : server.gateway.clients.Consistent) (session : Session) (now : Nat)
    (phase : Phase) :
    let next := session.advance now (phase, server)
    Turn mayClose server.gateway.config.maxConnections session.connection
        (phase.standing, server.gateway.clients, server.hub)
        (next.1.standing, next.2.gateway.clients, next.2.hub) ∧
      server.gateway.SameSettings next.2.gateway := by
  have stays : ∀ standing, Turn mayClose server.gateway.config.maxConnections session.connection
      (standing, server.gateway.clients, server.hub)
      (standing, server.gateway.clients, server.hub) :=
    fun standing => .calls (Hub.Reaches.refl mayClose server.hub)
  cases phase with
  | requested =>
    simp only [advance, Server.reserve?]
    cases reserved : server.hub.reserve? server.gateway.config.maxConnections with
    | none => exact ⟨stays _, .refl _⟩
    | some hub => exact ⟨.reserve reserved, .refl _⟩
  | vetting stage =>
    have vetted := vet_turn confined server.world session.request session.token now
    have turn : ∀ stage, Turn mayClose server.gateway.config.maxConnections session.connection
        (.waiting, server.gateway.clients, server.hub)
        (.waiting,
          (Gateway.vet session.request session.token now
            (stage, server.gateway, server.world)).2.1.clients,
          (Gateway.vet session.request session.token now
            (stage, server.gateway, server.world)).2.2.1) := by
      intro stage
      rw [(vetted stage).1]
      exact .calls (vetted stage).2.1
    cases stage with
    | due => exact ⟨turn .due, (vetted .due).2.2⟩
    | decided bind => exact ⟨turn (.decided bind), (vetted (.decided bind)).2.2⟩
    | settled answer =>
      cases answer with
      | error cause => exact ⟨.giveBack, .refl _⟩
      | ok token => exact ⟨.openSocket, .refl _⟩
  | arriving stage =>
    have turn := arrive_turn confined consistent server.world
      server.gateway.config.maxConnections session.connection now
    cases stage with
    | due token => exact turn (.due token)
    | admitted bind => exact turn (.admitted bind)
    | registered bind => exact turn (.registered bind)
    | spurned cause => exact turn (.spurned cause)
    | settled answer =>
      cases answer with
      | error cause => exact ⟨.close (Standing.ofAnswer_error cause), .refl _⟩
      | ok client => exact ⟨stays _, .refl _⟩
  | leaving answer stage =>
    have turn := depart_turn confined server.world
      server.gateway.config.maxConnections session.connection answer
    cases stage with
    | due => exact turn .due
    | clearing id option => exact turn (.clearing id option)
    | telling id option => exact turn (.telling id option)
    | settled departed => exact ⟨.release, .refl _⟩
  | turnedAway => exact ⟨stays _, .refl _⟩
  | unauthorized => exact ⟨stays _, .refl _⟩
  | abandoned => exact ⟨stays _, .refl _⟩
  | gone => exact ⟨stays _, .refl _⟩

end SocketGateway
