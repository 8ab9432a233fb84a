import SocketGateway.HookTable
import SocketGateway.Proofs.Gateway.Runs
import SocketGateway.Proofs.History
import SocketGateway.Proofs.Rooms.Updates
import SocketGateway.Transport.Recorder

/-!
Contract: who is told when a client leaves.

Owns:
- a world that keeps the calls of the disconnect hook;
- runs of authentications, connect and disconnect events, between which groups and rooms are
  recorded for clients that are online;
- that each departure is told once, and that whoever is in a group or has a room is online, just as
  long as no connection is presented for another client than the one to which it belongs.

Does not own: events at the same time.
-/

namespace SocketGateway

/-! ### A world that is watched -/

/-- A world beside the calls of the disconnect hook. -/
structure Watched (World : Type) where
  world : World
  told : List (ClientId × String) := []

namespace Watched

variable {World : Type}

def within {α : Type} (act : World → α × World) (watched : Watched World) : α × Watched World :=
  ((act watched.world).1, { watched with world := (act watched.world).2 })

def transport (transport : Transport World) : Transport (Watched World) where
  emit := fun connection event data => within (transport.emit connection event data)
  join := fun connection room => within (transport.join connection room)
  leave := fun connection room => within (transport.leave connection room)
  rooms := fun connection watched => transport.rooms connection watched.world
  broadcast := fun connection room event data =>
    within (transport.broadcast connection room event data)
  disconnect := fun connection watched =>
    { watched with world := transport.disconnect connection watched.world }

/-- The hooks of an application, with the calls of the last one kept. -/
def hooks (hooks : Hooks World) : Hooks (Watched World) where
  authenticate := hooks.authenticate.map fun hook token => within (hook token)
  connect := hooks.connect.map fun hook id option => within (hook id option)
  disconnect := hooks.disconnect.map fun hook id option watched =>
    { world := hook id option watched.world, told := watched.told ++ [(id, option)] }

/-- The options with which the hook was told of a client, one for each call. -/
def toldOf (watched : Watched World) (id : ClientId) : List String :=
  watched.told.filterMap fun farewell => if farewell.1 = id then some farewell.2 else none

private theorem told_disconnectAny (transport : Transport World) (connection : Option Connection)
    (watched : Watched World) :
    ((Watched.transport transport).disconnectAny connection watched).told = watched.told := by
  cases connection <;> rfl

/-! Only disconnect events tell the hook. -/

section Events

variable {gateway : Gateway (Watched World)} {own : Hooks World}

private theorem told_authenticate (installed : gateway.hooks = hooks own) (request : Handshake)
    (fresh : CorrelationToken) (now : Nat) (watched : Watched World) :
    (gateway.authenticate request fresh now watched).2.2.told = watched.told := by
  have decides : ∀ credential, (gateway.decide credential watched).2.told = watched.told := by
    intro credential
    unfold Gateway.decide
    rw [installed, hooks]
    cases own.authenticate <;> rfl
  unfold Gateway.authenticate
  cases Authentication.extractToken gateway.config.authPrefix request with
  | error cause => rfl
  | ok credential =>
    have unchanged := decides credential
    dsimp only
    generalize gateway.decide credential watched = decision at unchanged ⊢
    obtain ⟨answer, after⟩ := decision
    cases answer <;> exact unchanged

private theorem told_announce (installed : gateway.hooks = hooks own) (transport : Transport World)
    (connection : Connection) (bind : PendingBind) (watched : Watched World) :
    (gateway.announce (Watched.transport transport) connection bind watched).2.told =
      watched.told := by
  unfold Gateway.announce
  rw [installed, hooks]
  cases own.connect with
  | none => rfl
  | some hook =>
    dsimp only [Option.map_some, within]
    cases (hook bind.client bind.option watched.world).1 <;> rfl

private theorem told_connect (installed : gateway.hooks = hooks own) (transport : Transport World)
    (token : CorrelationToken) (connection : Connection) (now : Nat) (watched : Watched World) :
    (gateway.connect (Watched.transport transport) token connection now watched).2.2.told =
      watched.told := by
  unfold Gateway.connect
  obtain ⟨admission, pending⟩ := gateway.pending.beginConnect token now
  cases admission with
  | duplicate => rfl
  | admitted taken =>
    cases taken with
    | none => rfl
    | some bind =>
      have unchanged := told_disconnectAny transport (gateway.clients.register bind.client
        connection bind.option gateway.clock.now).evicted watched
      simp only [Gateway.register]
      cases (gateway.clients.register bind.client connection bind.option
        gateway.clock.now).result with
      | error cause => exact unchanged
      | ok =>
        rw [← unchanged]
        exact told_announce (by exact installed) transport connection bind _

end Events

end Watched

/-! ### Departures -/

namespace ClientRegistry

/-- The option of a client that left between two states of a registry. -/
def departure (before after : ClientRegistry) (id : ClientId) : Option String :=
  if (after.get? id).isSome then none else (before.get? id).map Client.option

variable {registry after : ClientRegistry}

private theorem departure_self (registry : ClientRegistry) (id : ClientId) :
    registry.departure registry id = none := by
  unfold departure
  cases registry.get? id <;> rfl

private theorem isSome_of_departure {id : ClientId} (online : (registry.get? id).isSome)
    (stayed : registry.departure after id = none) : (after.get? id).isSome := by
  unfold departure at stayed
  split at stayed
  · next remains => exact remains
  · rw [Option.map_eq_none_iff] at stayed
    rw [stayed] at online
    cases online

/-- A registration makes nobody leave but the client to which the connection belonged. -/
theorem departure_register (consistent : registry.Consistent) (id : ClientId)
    (connection : Connection) (option : String) (now : Int64) (other : ClientId) :
    registry.departure (registry.register id connection option now).registry other =
      if registry.lookup connection.id = some other ∧ other ≠ id then
        (registry.get? other).map Client.option
      else none := by
  have owner : registry.lookup connection.id = some other ↔ registry.IsOn other connection.id :=
    consistent.owned
  by_cases same : registry.IsOn id connection.id
  · have itself : registry.lookup connection.id = some other → other = id :=
      fun owns => consistent.owner_unique (owner.mp owns) same
    rw [register_same same, departure_self, if_neg]
    rintro ⟨owns, different⟩
    exact different (itself owns)
  · have clients := (register_moved consistent same option now).2.2.clients other
    unfold departure
    rw [get?, clients]
    by_cases leaves : registry.lookup connection.id = some other ∧ other ≠ id
    · rw [if_neg leaves.2.symm, if_pos (owner.mp leaves.1), if_pos leaves]
      rfl
    · rw [if_neg leaves]
      by_cases entered : id = other
      · rw [if_pos entered]
        rfl
      · have stays : ¬ registry.IsOn other connection.id :=
          fun on => leaves ⟨owner.mpr on, fun equal => entered equal.symm⟩
        rw [if_neg entered, if_neg stays]
        exact registry.departure_self other

/-- A deregistration makes the client leave that it returns. -/
theorem departure_deregister (consistent : registry.Consistent) (connection : Connection)
    (other : ClientId) :
    registry.departure (registry.deregister connection).registry other =
      (registry.deregister connection).departed.bind fun departed =>
        if departed.1 = other then some departed.2 else none := by
  cases owned : registry.owners[connection.id]? with
  | none =>
    rw [deregister_unknown owned]
    exact registry.departure_self other
  | some id =>
    obtain ⟨client, current, found, -, -, result⟩ := deregister_known consistent owned
    rw [result]
    dsimp only [Option.bind_some]
    unfold departure
    rw [get?, clients_remove]
    by_cases left : id = other
    · rw [if_pos left, if_pos left, get?, ← left, found]
      rfl
    · rw [if_neg left, if_neg left]
      exact registry.departure_self other

end ClientRegistry

/-! ### Who is in groups and rooms -/

namespace Gateway

variable {World : Type} {gateway after : Gateway World}

/-- Whoever staffs a group or has a room is online. -/
structure Housed (gateway : Gateway World) : Prop where
  staffers : ∀ {group : String} {id : ClientId}, id ∈ gateway.rooms.staffers group →
    (gateway.clients.get? id).isSome
  rooms : ∀ {id : ClientId}, (gateway.rooms.roomOf id.text).isSome →
    (gateway.clients.get? id).isSome

/-- The same groups and rooms name clients that are online, as long as all of these stay. -/
theorem Housed.mono (housed : gateway.Housed) (rooms : after.rooms = gateway.rooms)
    (stays : ∀ id, (gateway.clients.get? id).isSome → (after.clients.get? id).isSome) :
    after.Housed where
  staffers staffs := stays _ (housed.staffers (rooms ▸ staffs))
  rooms assigned := stays _ (housed.rooms (rooms ▸ assigned))

/-- The same groups and rooms without one client, who may leave. -/
theorem Housed.removeClient {left : ClientId} (housed : gateway.Housed)
    (rooms : after.rooms = gateway.rooms.removeClient left)
    (stays : ∀ id, left ≠ id → (gateway.clients.get? id).isSome →
      (after.clients.get? id).isSome) : after.Housed where
  staffers := by
    intro group id staffs
    rw [rooms] at staffs
    obtain ⟨different, before⟩ := RoomRegistry.mem_staffers_removeClient.mp staffs
    exact stays id different.symm (housed.staffers before)
  rooms := by
    intro id assigned
    rw [rooms, RoomRegistry.roomOf_removeClient] at assigned
    split at assigned
    · cases assigned
    · next different =>
      exact stays id (fun equal => different (congrArg ClientId.text equal))
        (housed.rooms assigned)

/-- Something is recorded for a client that is online. -/
theorem Housed.record (housed : gateway.Housed) {someone : ClientId}
    (online : (gateway.clients.get? someone).isSome) (update : RoomUpdate) :
    Housed { gateway with rooms := update.apply someone gateway.rooms } := by
  cases update with
  | addStaffer added =>
    constructor
    · intro group id staffs
      rcases (RoomRegistry.mem_staffers_addStaffer added).mp staffs with ⟨-, rfl⟩ | before
      · exact online
      · exact housed.staffers before
    · intro id assigned
      rw [RoomRegistry.roomOf, RoomUpdate.apply, RoomRegistry.assigned_addStaffer] at assigned
      exact housed.rooms assigned
  | assignRoom room =>
    constructor
    · intro group id staffs
      exact housed.staffers staffs
    · intro id assigned
      dsimp only [RoomUpdate.apply] at assigned
      rw [RoomRegistry.roomOf_assignRoom] at assigned
      split at assigned
      · next equal =>
        -- rooms are assigned to texts, which tell clients apart
        obtain ⟨text⟩ := someone
        obtain rfl : text = id.text := equal
        exact online
      · exact housed.rooms assigned

end Gateway

/-! ### Runs -/

/-- What happens at a gateway, one after the other. -/
inductive GatewayEvent where
  | authenticate (request : Handshake) (now : Nat)
  | connect (token : CorrelationToken) (connection : Connection) (now : Nat)
  | disconnect (connection : Connection)
  /-- Somebody records a group or a room of a client. -/
  | record (id : ClientId) (update : RoomUpdate)

/-- A deployment whose application has these hooks. -/
structure Watch (World : Type) where
  deployment : Deployment World
  hooks : Hooks World

namespace Watch

variable {World : Type}

def deployed (watch : Watch World) : Deployment (Watched World) where
  transport := Watched.transport watch.deployment.transport
  tokens := watch.deployment.tokens
  config := watch.deployment.config
  clock := watch.deployment.clock
  world := { world := watch.deployment.world }

def perform (watch : Watch World) (service : Service (Watched World)) :
    GatewayEvent → Service (Watched World)
  | .authenticate request now => watch.deployed.perform service (.authenticate request now)
  | .connect token connection now =>
    watch.deployed.perform service (.connect token connection now)
  | .disconnect connection => watch.deployed.perform service (.disconnect connection)
  | .record id update =>
    { service with
      gateway := { service.gateway with rooms := update.apply id service.gateway.rooms } }

def start (watch : Watch World) : Service (Watched World) :=
  watch.deployed.perform watch.deployed.start (.setHooks (Watched.hooks watch.hooks))

def after (watch : Watch World) (events : List GatewayEvent) : Service (Watched World) :=
  events.foldl watch.perform watch.start

/-- Each event of a run was of that kind when it happened. -/
def Throughout (watch : Watch World)
    (kind : Service (Watched World) → GatewayEvent → Prop) (events : List GatewayEvent) : Prop :=
  ∀ earlier event, earlier ++ [event] <+: events → kind (watch.after earlier) event

/-- Groups and rooms are recorded for clients that are online. -/
def Considerate (service : Service (Watched World)) : GatewayEvent → Prop
  | .record id _ => (service.gateway.clients.get? id).isSome
  | _ => True

/-- Nobody leaves silently in the event, and whoever is in a group or has a room afterwards is
online. -/
structure Attended (watch : Watch World) (service : Service (Watched World))
    (event : GatewayEvent) : Prop where
  /-- The hook is told once of each client that leaves, with its last option, and of nobody else. -/
  told : ∀ id, (watch.perform service event).world.toldOf id =
    service.world.toldOf id ++
      (service.gateway.clients.departure (watch.perform service event).gateway.clients id).toList
  housed : (watch.perform service event).gateway.Housed

/-- The event binds a client to a connection that belongs to another one. -/
def TakesOver (service : Service (Watched World)) : GatewayEvent → Prop
  | .connect token connection now =>
    ∃ bind owner,
      (service.gateway.pending.beginConnect token now).1 = .admitted (some bind) ∧
        service.gateway.clients.lookup connection.id = some owner ∧ owner ≠ bind.client
  | _ => False

theorem after_concat (watch : Watch World) (events : List GatewayEvent) (event : GatewayEvent) :
    watch.after (events ++ [event]) = watch.perform (watch.after events) event := by
  simp [after]

/-! ### One event -/

section

variable {watch : Watch World} {service : Service (Watched World)}

/-- The hooks stay the same, and the registry consistent. -/
structure Sound (watch : Watch World) (service : Service (Watched World)) : Prop where
  hooks : service.gateway.hooks = Watched.hooks watch.hooks
  consistent : service.gateway.clients.Consistent

/-- The gateway after an authentication: only the binds that wait may differ. -/
theorem authenticated (watch : Watch World) (service : Service (Watched World))
    (request : Handshake) (now : Nat) :
    ∃ pending, (watch.perform service (.authenticate request now)).gateway =
      { service.gateway with pending := pending } := by
  rcases watch.deployed.perform_authenticate service request now with
    ⟨cause, -, same, -⟩ | ⟨bind, -, -, stashed, -⟩
  · exact ⟨_, same⟩
  · exact ⟨_, stashed⟩

theorem connected (watch : Watch World) (service : Service (Watched World))
    (token : CorrelationToken) (connection : Connection) (now : Nat) :
    (∃ bind, (service.gateway.pending.beginConnect token now).1 = .admitted (some bind) ∧
      (watch.perform service (.connect token connection now)).gateway =
        { service.gateway with
          pending := (service.gateway.pending.beginConnect token now).2
          clients := (service.gateway.clients.register bind.client connection bind.option
            service.gateway.clock.now).registry
          clock := service.gateway.clock.advance }) ∨
    ((∀ bind, (service.gateway.pending.beginConnect token now).1 ≠ .admitted (some bind)) ∧
      (watch.perform service (.connect token connection now)).gateway =
        { service.gateway with
          pending := (service.gateway.pending.beginConnect token now).2 }) := by
  by_cases waiting : ∃ bind,
      (service.gateway.pending.beginConnect token now).1 = .admitted (some bind)
  · obtain ⟨bind, admitted⟩ := waiting
    exact Or.inl ⟨bind, admitted,
      (Gateway.connect_admitted admitted watch.deployed.transport connection service.world).2⟩
  · push Not at waiting
    exact Or.inr ⟨waiting,
      (Gateway.connect_turned_away waiting watch.deployed.transport connection service.world).2⟩

theorem Sound.perform (sound : watch.Sound service) (event : GatewayEvent) :
    watch.Sound (watch.perform service event) where
  hooks := by
    cases event with
    | authenticate request now =>
      obtain ⟨pending, after⟩ := authenticated watch service request now
      rw [after]
      exact sound.hooks
    | connect token connection now =>
      rcases connected watch service token connection now with ⟨bind, -, after⟩ | ⟨-, after⟩
      · rw [after]
        exact sound.hooks
      · rw [after]
        exact sound.hooks
    | disconnect connection =>
      rw [Watch.perform, Deployment.perform]
      rcases service.gateway.disconnect_outcome watch.deployed.transport connection service.world
        with ⟨id, option, -, after⟩ | ⟨-, after⟩
      · rw [after]
        exact sound.hooks
      · rw [after]
        exact sound.hooks
    | record id update => exact sound.hooks
  consistent := by
    cases event with
    | authenticate request now => exact Deployment.consistent_perform sound.consistent _
    | connect token connection now => exact Deployment.consistent_perform sound.consistent _
    | disconnect connection => exact Deployment.consistent_perform sound.consistent _
    | record id update => exact sound.consistent

/-! #### Who is told -/

/-- The hook is told once of each client that leaves in the event. -/
def Tells (watch : Watch World) (service : Service (Watched World)) (event : GatewayEvent) : Prop :=
  ∀ id, (watch.perform service event).world.toldOf id =
    service.world.toldOf id ++
      (service.gateway.clients.departure (watch.perform service event).gateway.clients id).toList

/-- An event that tells nobody must not make anybody leave. -/
theorem tells_of_untold {event : GatewayEvent}
    (untold : (watch.perform service event).world.told = service.world.told) :
    watch.Tells service event ↔
      ∀ id, service.gateway.clients.departure (watch.perform service event).gateway.clients id =
        none := by
  simp only [Tells, Watched.toldOf, untold, List.self_eq_append_right, Option.toList_eq_nil_iff]

private theorem Sound.untold_authenticate (sound : watch.Sound service) (request : Handshake)
    (now : Nat) :
    (watch.perform service (.authenticate request now)).world.told = service.world.told := by
  have unchanged := Watched.told_authenticate sound.hooks request
    (watch.deployment.tokens service.drawn) now service.world
  rw [← unchanged, Watch.perform, Deployment.perform, Deployment.authenticate, deployed]
  dsimp only
  generalize service.gateway.authenticate request (watch.deployment.tokens service.drawn) now
    service.world = outcome
  obtain ⟨answer, gateway, world⟩ := outcome
  cases answer <;> rfl

/-- A connect event makes somebody leave exactly if it takes a connection over. -/
theorem Sound.departures_connect (sound : watch.Sound service) (token : CorrelationToken)
    (connection : Connection) (now : Nat) :
    (∀ id, service.gateway.clients.departure
      (watch.perform service (.connect token connection now)).gateway.clients id = none) ↔
      ¬ TakesOver service (.connect token connection now) := by
  rcases connected watch service token connection now with
    ⟨bind, admitted, after⟩ | ⟨unbound, after⟩
  · rw [after]
    simp only [ClientRegistry.departure_register sound.consistent]
    constructor
    · rintro stays ⟨_, owner, sameAdmitted, owns, different⟩
      obtain rfl : _ = bind :=
        Option.some.inj (Admission.admitted.inj (sameAdmitted.symm.trans admitted))
      have stayed := stays owner
      rw [if_pos ⟨owns, different⟩, Option.map_eq_none_iff] at stayed
      have online := (sound.consistent.owned.mp owns).isSome
      rw [ClientRegistry.get?] at stayed
      rw [stayed] at online
      cases online
    · intro keeps id
      rw [if_neg]
      rintro ⟨owns, different⟩
      exact keeps ⟨bind, id, admitted, owns, different⟩
  · rw [after]
    refine iff_of_true (fun id => ClientRegistry.departure_self _ id) ?_
    rintro ⟨bind, owner, admitted, -⟩
    exact unbound bind admitted

private theorem Sound.tells_disconnect (sound : watch.Sound service)
    (installed : watch.hooks.disconnect.isSome) (connection : Connection) :
    watch.Tells service (.disconnect connection) := by
  have departs := ClientRegistry.departure_deregister sound.consistent connection
  have closed := Watched.told_disconnectAny watch.deployment.transport
    (service.gateway.clients.deregister connection).closed service.world
  obtain ⟨hook, isHook⟩ := Option.isSome_iff_exists.mp installed
  intro id
  rw [Watch.perform, Deployment.perform]
  rcases service.gateway.disconnect_outcome watch.deployed.transport connection service.world
    with ⟨left, option, departed, after⟩ | ⟨departed, after⟩
  · rw [after, sound.hooks, Watched.hooks, isHook]
    dsimp only [Option.map_some]
    rw [departs, departed, Watched.toldOf, List.filterMap_append, deployed, closed, Watched.toldOf]
    by_cases itself : left = id <;> simp [itself]
  · rw [after]
    dsimp only
    rw [departs, departed, Watched.toldOf, deployed, closed, Watched.toldOf]
    simp

theorem Sound.tells_iff (sound : watch.Sound service) (installed : watch.hooks.disconnect.isSome)
    (event : GatewayEvent) : watch.Tells service event ↔ ¬ TakesOver service event := by
  cases event with
  | authenticate request now =>
    obtain ⟨pending, after⟩ := authenticated watch service request now
    rw [tells_of_untold (sound.untold_authenticate request now), after]
    exact iff_of_true (fun id => ClientRegistry.departure_self _ id) id
  | connect token connection now =>
    have untold : (watch.perform service (.connect token connection now)).world.told =
        service.world.told :=
      Watched.told_connect sound.hooks watch.deployment.transport token connection now service.world
    exact (tells_of_untold untold).trans (sound.departures_connect token connection now)
  | disconnect connection => exact iff_of_true (sound.tells_disconnect installed connection) id
  | record id update =>
    rw [tells_of_untold rfl]
    exact iff_of_true (fun other => ClientRegistry.departure_self _ other) not_false

/-! #### Who is online -/

/-- Whoever is in a group or has a room stays online, unless a connection is taken over. -/
theorem Sound.housed (sound : watch.Sound service) (housed : service.gateway.Housed)
    (event : GatewayEvent) (keeps : ¬ TakesOver service event)
    (considerate : Considerate service event) :
    (watch.perform service event).gateway.Housed := by
  cases event with
  | authenticate request now =>
    obtain ⟨pending, after⟩ := authenticated watch service request now
    rw [after]
    exact housed.mono rfl fun _ => id
  | connect token connection now =>
    have nobody := (sound.departures_connect token connection now).mpr keeps
    have rooms : (watch.perform service (.connect token connection now)).gateway.rooms =
        service.gateway.rooms := by
      rcases connected watch service token connection now with ⟨bind, -, after⟩ | ⟨-, after⟩ <;>
        rw [after]
    exact housed.mono rooms fun id online => ClientRegistry.isSome_of_departure online (nobody id)
  | disconnect connection =>
    have departs := ClientRegistry.departure_deregister sound.consistent connection
    rw [Watch.perform, Deployment.perform]
    rcases service.gateway.disconnect_outcome watch.deployed.transport connection service.world
      with ⟨left, option, departed, after⟩ | ⟨departed, after⟩
    · rw [after]
      refine housed.removeClient rfl fun id different online => ?_
      refine ClientRegistry.isSome_of_departure online ?_
      rw [departs, departed, Option.bind_some, if_neg different]
    · rw [after]
      refine housed.mono rfl fun id online => ClientRegistry.isSome_of_departure online ?_
      rw [departs, departed, Option.bind_none]
  | record someone update => exact housed.record considerate update

end

/-! ### Runs of events -/

section

variable {kind : Service (Watched World) → GatewayEvent → Prop} {events : List GatewayEvent}

theorem Throughout.mono {watch : Watch World} (throughout : watch.Throughout kind events)
    {shorter : List GatewayEvent} (isPrefix : shorter <+: events) :
    watch.Throughout kind shorter :=
  fun earlier event among => throughout earlier event (among.trans isPrefix)

private theorem throughout_nil (watch : Watch World) : watch.Throughout kind [] := by
  intro earlier event among
  simp at among

private theorem throughout_concat (watch : Watch World) (event : GatewayEvent) :
    watch.Throughout kind (events ++ [event]) ↔
      watch.Throughout kind events ∧ kind (watch.after events) event :=
  forall_before_concat

end

private theorem sound_start (watch : Watch World) : watch.Sound watch.start :=
  ⟨rfl, ClientRegistry.consistent_empty⟩

private theorem housed_start (watch : Watch World) : watch.start.gateway.Housed where
  staffers := by
    intro group id staffs
    simp [start, Deployment.perform, Deployment.start, Gateway.new, Gateway.setHooks,
      RoomRegistry.staffers] at staffs
  rooms := by
    intro id assigned
    simp [start, Deployment.perform, Deployment.start, Gateway.new, Gateway.setHooks,
      RoomRegistry.roomOf] at assigned

theorem sound_after (watch : Watch World) (events : List GatewayEvent) :
    watch.Sound (watch.after events) := by
  induction events using List.reverseRecOn with
  | nil => exact watch.sound_start
  | append_singleton events event inductionHypothesis =>
    rw [after_concat]
    exact inductionHypothesis.perform event

theorem housed_after (watch : Watch World) {events : List GatewayEvent}
    (considerate : watch.Throughout Considerate events)
    (keeps : watch.Throughout (fun service event => ¬ TakesOver service event) events) :
    (watch.after events).gateway.Housed := by
  induction events using List.reverseRecOn with
  | nil => exact watch.housed_start
  | append_singleton events event inductionHypothesis =>
    obtain ⟨considerateBefore, last⟩ := (watch.throughout_concat event).mp considerate
    obtain ⟨keepsBefore, lastKeeps⟩ := (watch.throughout_concat event).mp keeps
    have housed := inductionHypothesis considerateBefore keepsBefore
    rw [after_concat]
    exact (watch.sound_after events).housed housed event lastKeeps last

/-- Nobody leaves silently in a whole run, exactly if no connection is taken over in it. -/
theorem attended_iff (watch : Watch World) (installed : watch.hooks.disconnect.isSome)
    (events : List GatewayEvent) (considerate : watch.Throughout Considerate events) :
    watch.Throughout watch.Attended events ↔
      watch.Throughout (fun service event => ¬ TakesOver service event) events := by
  constructor
  · intro attended earlier event among
    exact ((watch.sound_after earlier).tells_iff installed event).mp
      (attended earlier event among).told
  · intro keeps earlier event among
    have told := ((watch.sound_after earlier).tells_iff installed event).mpr
      (keeps earlier event among)
    have housed := watch.housed_after (considerate.mono among) (keeps.mono among)
    rw [after_concat] at housed
    exact ⟨told, housed⟩

/-! ### Two runs -/

/-- An application that is told of departures. -/
def reception : Watch Recording where
  deployment :=
    { transport := Recording.transport fun _ => []
      tokens := fun number => ⟨number.repr⟩
      config := {}
      clock := .fixed 0
      world := {} }
  hooks := HookTable.hooks Recording.note { farewells := true }

/-- A client comes and joins a group. -/
def joining : List GatewayEvent :=
  [.authenticate (Handshake.withQuery {} "token" "u1") 0, .connect ⟨"0"⟩ ⟨⟨"c1"⟩, "first"⟩ 1,
    .record ⟨"u1"⟩ (.addStaffer "support")]

private theorem joining_considerate : reception.Throughout Considerate joining := by
  have run : joining = (([] ++ [joining[0]]) ++ [joining[1]]) ++ [joining[2]] := rfl
  have online : ((reception.after ([] ++ [joining[0]] ++ [joining[1]])).gateway.clients.get?
      ⟨"u1"⟩).isSome := by
    decide +kernel
  rw [run, throughout_concat, throughout_concat, throughout_concat]
  exact ⟨⟨⟨reception.throughout_nil, trivial⟩, trivial⟩, online⟩

/-- The client leaves as it should. -/
theorem joining_attended :
    reception.hooks.disconnect.isSome ∧
      reception.Throughout Considerate (joining ++ [.disconnect ⟨⟨"c1"⟩, "first"⟩]) ∧
      reception.Throughout reception.Attended (joining ++ [.disconnect ⟨⟨"c1"⟩, "first"⟩]) := by
  have considerate :
      reception.Throughout Considerate (joining ++ [.disconnect ⟨⟨"c1"⟩, "first"⟩]) :=
    (reception.throughout_concat _).mpr ⟨joining_considerate, trivial⟩
  refine ⟨rfl, considerate, (attended_iff reception rfl _ considerate).mpr ?_⟩
  have run : joining = (([] ++ [joining[0]]) ++ [joining[1]]) ++ [joining[2]] := rfl
  rw [throughout_concat, run, throughout_concat, throughout_concat, throughout_concat]
  refine ⟨⟨⟨⟨reception.throughout_nil, id⟩, ?_⟩, id⟩, id⟩
  rintro ⟨bind, owner, -, owns, -⟩
  have free : (reception.after ([] ++ [joining[0]])).gateway.clients.lookup ⟨"c1"⟩ = none := by
    decide +kernel
  cases owns.symm.trans free

/-- After that, somebody else comes on the same connection. -/
def takeover : List GatewayEvent :=
  joining ++ [.authenticate (Handshake.withQuery {} "token" "u2") 2] ++
    [.connect ⟨"1"⟩ ⟨⟨"c1"⟩, "first"⟩ 3]

/-- The client leaves without a word, and stays in its group. -/
theorem takeover_unattended :
    reception.hooks.disconnect.isSome ∧ reception.Throughout Considerate takeover ∧
      ¬ reception.Throughout reception.Attended takeover ∧
      (reception.after takeover).gateway.clients.get? ⟨"u1"⟩ = none ∧
      (reception.after takeover).world.told = [] ∧
      (reception.after takeover).gateway.rooms.staffers "support" = [⟨"u1"⟩] := by
  refine ⟨rfl, ?_, ?_, by decide +kernel, by decide +kernel, by decide +kernel⟩
  · rw [takeover, throughout_concat, throughout_concat]
    exact ⟨⟨joining_considerate, trivial⟩, trivial⟩
  · intro attended
    have last := ((reception.throughout_concat _).mp attended).2
    exact absurd (last.told ⟨"u1"⟩) (by decide +kernel)

end Watch

end SocketGateway
