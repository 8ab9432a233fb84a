import SocketGateway.Proofs.Gateway.Runs
import SocketGateway.Proofs.Gateway.Steps
import SocketGateway.Proofs.Rooms.Updates
import SocketGateway.Transport.Recorder

/-!
Contract: a client that comes back while its former connection ends.

Owns:
- the race of a disconnect event with a connect event of the same client, whose hook records groups
  and a room for the client, step by step in any order;
- the two orders of the whole events;
- that the clients end as in one of the orders, and when the groups and rooms do.

The two stores are locked one after the other, so the groups of the former session may be cleared
after the hook has recorded those of the new one.

Does not own: other events at the same time.
-/

namespace SocketGateway

/-- A client comes back on a new connection while its old one ends. -/
structure Reconnect (World : Type) where
  transport : Transport World
  old : Connection
  new : Connection
  token : CorrelationToken
  now : Nat
  /-- What the connect hook records about the client, before it answers. -/
  updates : List RoomUpdate

/-- How far both events have come. -/
structure Race (World : Type) where
  gateway : Gateway World
  world : World
  departure : Departure
  arrival : Arrival
  /-- What the hook has still to record. -/
  todo : List RoomUpdate
  noted : List RoomUpdate := []
  /-- What the hook had recorded when the groups and the room of the old session were cleared. -/
  swept : List RoomUpdate := []

/-- Whose step comes next. -/
inductive Party where
  /-- The disconnect event of the old connection. -/
  | leaver
  /-- The connect event of the new connection. -/
  | comer
deriving DecidableEq, Repr

def Race.IsOver {World : Type} (race : Race World) : Prop :=
  (∃ answer, race.departure = .settled answer) ∧ ∃ answer, race.arrival = .settled answer

namespace Reconnect

variable {World : Type}

def leave (event : Reconnect World) (race : Race World) : Race World :=
  let next := Gateway.depart event.transport event.old (race.departure, race.gateway, race.world)
  { race with
    departure := next.1
    gateway := next.2.1
    world := next.2.2
    swept :=
      match race.departure with
      | .clearing _ _ => race.noted
      | _ => race.swept }

/-- The step of the connect event. The hook records one thing after the other. -/
def come (event : Reconnect World) (race : Race World) : Race World :=
  match race.arrival, race.todo with
  | .registered bind, update :: rest =>
    { race with
      gateway :=
        { race.gateway with rooms := update.apply bind.client race.gateway.rooms }
      todo := rest
      noted := race.noted ++ [update] }
  | arrival, todo =>
    let next := Gateway.arrive event.transport event.new event.now
      (arrival, race.gateway, race.world)
    { race with arrival := next.1, gateway := next.2.1, world := next.2.2, todo := todo }

def step (event : Reconnect World) (race : Race World) : Party → Race World
  | .leaver => event.leave race
  | .comer => event.come race

def start (event : Reconnect World) (gateway : Gateway World) (world : World) : Race World where
  gateway := gateway
  world := world
  departure := .due
  arrival := .due event.token
  todo := event.updates

def run (event : Reconnect World) (gateway : Gateway World) (world : World)
    (schedule : List Party) : Race World :=
  schedule.foldl event.step (event.start gateway world)

/-! ### The two orders -/

def disconnect (event : Reconnect World) (state : Gateway World × World) : Gateway World × World :=
  (state.1.disconnect event.transport event.old state.2).2

/-- The whole connect event, with what its hook records. -/
def connect (event : Reconnect World) (state : Gateway World × World) : Gateway World × World :=
  let outcome := (state.1.connect event.transport event.token event.new event.now state.2).2
  match (state.1.pending.beginConnect event.token event.now).1 with
  | .admitted (some bind) =>
    ({ outcome.1 with rooms := RoomUpdate.applyAll bind.client event.updates outcome.1.rooms },
      outcome.2)
  | _ => outcome

def leaverFirst (event : Reconnect World) (gateway : Gateway World) (world : World) :
    Gateway World :=
  (event.connect (event.disconnect (gateway, world))).1

def comerFirst (event : Reconnect World) (gateway : Gateway World) (world : World) :
    Gateway World :=
  (event.disconnect (event.connect (gateway, world))).1

/-- The clients, groups and rooms are those that one of the two orders leaves. -/
def Serial (event : Reconnect World) (gateway : Gateway World) (world : World)
    (final : Gateway World) : Prop :=
  (final.clients = (event.leaverFirst gateway world).clients ∧
    RoomRegistry.Same final.rooms (event.leaverFirst gateway world).rooms) ∨
  (final.clients = (event.comerFirst gateway world).clients ∧
    RoomRegistry.Same final.rooms (event.comerFirst gateway world).rooms)

/-- What the race starts from: the client of the bind is on the old connection, and the token lets
it in on another one. -/
structure Sets (event : Reconnect World) (gateway : Gateway World) (bind : PendingBind) : Prop where
  consistent : gateway.clients.Consistent
  bound : gateway.clients.IsOn bind.client event.old.id
  elsewhere : event.new.id ≠ event.old.id
  admitted : (gateway.pending.beginConnect event.token event.now).1 = .admitted (some bind)

/-- The registry after the client came. -/
def joined (event : Reconnect World) (gateway : Gateway World) (bind : PendingBind)
    (clients : ClientRegistry) : ClientRegistry :=
  (clients.register bind.client event.new bind.option gateway.clock.now).registry

def left (event : Reconnect World) (clients : ClientRegistry) : ClientRegistry :=
  (clients.deregister event.old).registry

section Registry

variable {event : Reconnect World} {gateway : Gateway World} {bind : PendingBind}

theorem Sets.departs (sets : event.Sets gateway bind) :
    ∃ option, (gateway.clients.deregister event.old).departed = some (bind.client, option) := by
  obtain ⟨client, current, -, -, -, result⟩ :=
    ClientRegistry.deregister_known sets.consistent (sets.consistent.owned.mpr sets.bound)
  exact ⟨client.option, by rw [result]⟩

/-- Once the client has come, the old connection belongs to nobody. -/
theorem Sets.replaced (sets : event.Sets gateway bind) :
    ((event.joined gateway bind gateway.clients).deregister event.old).departed = none := by
  have notNew : ¬ gateway.clients.IsOn bind.client event.new.id :=
    fun onNew => sets.elsewhere (onNew.key_unique sets.bound)
  have moved := (ClientRegistry.register_moved sets.consistent notNew bind.option
    gateway.clock.now).2.2
  have nobody : (event.joined gateway bind gateway.clients).owners[event.old.id]? = none := by
    rw [joined, moved.owners, if_neg sets.elsewhere, if_pos sets.bound]
  rw [ClientRegistry.deregister_unknown nobody]

private theorem connect_stores (event : Reconnect World)
    (admitted : (gateway.pending.beginConnect event.token event.now).1 = .admitted (some bind))
    (world : World) :
    (event.connect (gateway, world)).1.clients = event.joined gateway bind gateway.clients ∧
      (event.connect (gateway, world)).1.rooms =
        RoomUpdate.applyAll bind.client event.updates gateway.rooms := by
  unfold connect
  rw [admitted]
  dsimp only
  rw [(Gateway.connect_admitted admitted event.transport event.new world).2]
  exact ⟨rfl, rfl⟩

private theorem comerFirst_stores (sets : event.Sets gateway bind) (world : World) :
    (event.comerFirst gateway world).clients =
        event.left (event.joined gateway bind gateway.clients) ∧
      (event.comerFirst gateway world).rooms =
        RoomUpdate.applyAll bind.client event.updates gateway.rooms := by
  obtain ⟨clients, rooms⟩ := connect_stores event sets.admitted world
  unfold comerFirst disconnect
  rcases Gateway.disconnect_outcome (event.connect (gateway, world)).1 event.transport event.old
    (event.connect (gateway, world)).2 with ⟨id, option, departs, -⟩ | ⟨-, leaves⟩
  · rw [clients, sets.replaced] at departs
    cases departs
  · rw [leaves]
    exact ⟨by rw [clients]; rfl, rooms⟩

private theorem leaverFirst_stores (sets : event.Sets gateway bind) (world : World) :
    (event.leaverFirst gateway world).clients =
        event.joined gateway bind (event.left gateway.clients) ∧
      (event.leaverFirst gateway world).rooms =
        RoomUpdate.applyAll bind.client event.updates (gateway.rooms.removeClient bind.client) := by
  obtain ⟨option, departed⟩ := sets.departs
  unfold leaverFirst disconnect
  rcases Gateway.disconnect_outcome gateway event.transport event.old world with
    ⟨id, _, departs, leaves⟩ | ⟨stays, -⟩
  · obtain ⟨rfl, -⟩ := Prod.mk.inj (Option.some.inj (departed.symm.trans departs))
    rw [leaves]
    -- the disconnect event leaves the pending binds alone, so the same bind is admitted
    exact connect_stores event (by exact sets.admitted) _
  · rw [departed] at stays
    cases stays

end Registry

/-! ### What every step keeps -/

/-- Where the clients, groups and rooms stand, by how far the disconnect event has come. -/
inductive Stores (event : Reconnect World) (gateway : Gateway World) (bind : PendingBind)
    (race : Race World) : Prop where
  | ahead
      (departure : race.departure = .due)
      (clients : race.gateway.clients =
        if race.arrival.isDecided then event.joined gateway bind gateway.clients
        else gateway.clients)
      (rooms : race.gateway.rooms = RoomUpdate.applyAll bind.client race.noted gateway.rooms)
      (swept : race.swept = [])
  /-- The client had come before the old connection was looked up. -/
  | replaced
      (departure : race.departure = .settled none)
      (decided : race.arrival.isDecided = true)
      (clients : race.gateway.clients =
        event.left (event.joined gateway bind gateway.clients))
      (rooms : race.gateway.rooms = RoomUpdate.applyAll bind.client race.noted gateway.rooms)
      (swept : race.swept = [])
  | clearing (option : String)
      (departure : race.departure = .clearing bind.client option)
      (clients : race.gateway.clients =
        if race.arrival.isDecided then event.joined gateway bind (event.left gateway.clients)
        else event.left gateway.clients)
      (rooms : race.gateway.rooms = RoomUpdate.applyAll bind.client race.noted gateway.rooms)
  | cleared (option : String) (kept : List RoomUpdate)
      (departure : race.departure = .telling bind.client option ∨
        race.departure = .settled (some (bind.client, option)))
      (clients : race.gateway.clients =
        if race.arrival.isDecided then event.joined gateway bind (event.left gateway.clients)
        else event.left gateway.clients)
      (noted : race.noted = race.swept ++ kept)
      (rooms : race.gateway.rooms = RoomUpdate.applyAll bind.client kept
        ((RoomUpdate.applyAll bind.client race.swept gateway.rooms).removeClient bind.client))

/-- How far the connect event has come. -/
inductive Progress (event : Reconnect World) (gateway : Gateway World) (bind : PendingBind)
    (race : Race World) : Prop where
  | due
      (arrival : race.arrival = .due event.token)
      (pending : race.gateway.pending = gateway.pending)
      (clock : race.gateway.clock = gateway.clock)
      (todo : race.todo = event.updates)
      (noted : race.noted = [])
  | admitted
      (arrival : race.arrival = .admitted bind)
      (clock : race.gateway.clock = gateway.clock)
      (todo : race.todo = event.updates)
      (noted : race.noted = [])
  | registered
      (arrival : race.arrival = .registered bind)
      (updates : race.noted ++ race.todo = event.updates)
  | finished
      (arrival : (∃ cause, race.arrival = .spurned cause) ∨
        ∃ answer, race.arrival = .settled answer)
      (todo : race.todo = [])
      (noted : race.noted = event.updates)

section Steps

variable {event : Reconnect World} {gateway : Gateway World} {bind : PendingBind}
  {race next : Race World}

/-- A step after which the hook has recorded more, and the stores are otherwise as before. -/
theorem Stores.note (stores : event.Stores gateway bind race) (more : List RoomUpdate)
    (departure : next.departure = race.departure)
    (clients : next.gateway.clients = race.gateway.clients)
    (rooms : next.gateway.rooms = RoomUpdate.applyAll bind.client more race.gateway.rooms)
    (noted : next.noted = race.noted ++ more) (swept : next.swept = race.swept)
    (decided : next.arrival.isDecided = race.arrival.isDecided) :
    event.Stores gateway bind next := by
  cases stores with
  | ahead atDeparture atClients atRooms atSwept =>
    exact .ahead (departure.trans atDeparture) (by rw [clients, decided, atClients])
      (by rw [rooms, noted, atRooms, RoomUpdate.applyAll_append]) (swept.trans atSwept)
  | replaced atDeparture atDecided atClients atRooms atSwept =>
    exact .replaced (departure.trans atDeparture) (decided.trans atDecided)
      (clients.trans atClients) (by rw [rooms, noted, atRooms, RoomUpdate.applyAll_append])
      (swept.trans atSwept)
  | clearing option atDeparture atClients atRooms =>
    exact .clearing option (departure.trans atDeparture) (by rw [clients, decided, atClients])
      (by rw [rooms, noted, atRooms, RoomUpdate.applyAll_append])
  | cleared option kept atDeparture atClients atNoted atRooms =>
    -- what comes after the sweep is kept
    exact .cleared option (kept ++ more) (by rw [departure]; exact atDeparture)
      (by rw [clients, decided, atClients])
      (by rw [noted, swept, atNoted, List.append_assoc])
      (by rw [rooms, swept, atRooms, RoomUpdate.applyAll_append])

theorem Stores.congr (stores : event.Stores gateway bind race)
    (departure : next.departure = race.departure)
    (clients : next.gateway.clients = race.gateway.clients)
    (rooms : next.gateway.rooms = race.gateway.rooms) (noted : next.noted = race.noted)
    (swept : next.swept = race.swept)
    (decided : next.arrival.isDecided = race.arrival.isDecided) :
    event.Stores gateway bind next :=
  stores.note [] departure clients rooms (by rw [noted, List.append_nil]) swept decided

theorem Progress.congr (progress : event.Progress gateway bind race)
    (arrival : next.arrival = race.arrival)
    (pending : next.gateway.pending = race.gateway.pending)
    (clock : next.gateway.clock = race.gateway.clock) (todo : next.todo = race.todo)
    (noted : next.noted = race.noted) : event.Progress gateway bind next := by
  cases progress with
  | due atArrival atPending atClock atTodo atNoted =>
    exact .due (arrival.trans atArrival) (pending.trans atPending) (clock.trans atClock)
      (todo.trans atTodo) (noted.trans atNoted)
  | admitted atArrival atClock atTodo atNoted =>
    exact .admitted (arrival.trans atArrival) (clock.trans atClock) (todo.trans atTodo)
      (noted.trans atNoted)
  | registered atArrival atUpdates =>
    exact .registered (arrival.trans atArrival) (by rw [noted, todo, atUpdates])
  | finished atArrival atTodo atNoted =>
    exact .finished (by rw [arrival]; exact atArrival) (todo.trans atTodo) (noted.trans atNoted)

/-! ### Steps of the disconnect event -/

/-- The first step looks the old connection up and takes its client out of the registry. -/
theorem leave_due (event : Reconnect World) (due : race.departure = .due) :
    ∃ world,
      (∃ id option, (race.gateway.clients.deregister event.old).departed = some (id, option) ∧
        event.leave race =
          { race with
            departure := .clearing id option
            gateway := { race.gateway with clients := event.left race.gateway.clients }
            world := world }) ∨
      ((race.gateway.clients.deregister event.old).departed = none ∧
        event.leave race =
          { race with
            departure := .settled none
            gateway := { race.gateway with clients := event.left race.gateway.clients }
            world := world }) := by
  refine ⟨event.transport.disconnectAny (race.gateway.clients.deregister event.old).closed
    race.world, ?_⟩
  unfold leave
  rw [due]
  simp only [Gateway.depart, Gateway.deregister]
  cases (race.gateway.clients.deregister event.old).departed with
  | none => exact Or.inr ⟨rfl, rfl⟩
  | some departed => exact Or.inl ⟨departed.1, departed.2, rfl, rfl⟩

theorem Stores.leave (sets : event.Sets gateway bind) (stores : event.Stores gateway bind race) :
    event.Stores gateway bind (event.leave race) := by
  cases stores with
  | ahead departure clients rooms swept =>
    obtain ⟨world, outcome⟩ := leave_due event departure
    by_cases decided : race.arrival.isDecided = true
    · rw [if_pos decided] at clients
      rcases outcome with ⟨id, option, departs, -⟩ | ⟨-, after⟩
      · rw [clients, sets.replaced] at departs
        cases departs
      · rw [after]
        exact .replaced rfl decided (congrArg event.left clients) rooms swept
    · rw [if_neg decided] at clients
      obtain ⟨itsOption, departed⟩ := sets.departs
      rcases outcome with ⟨id, option, departs, after⟩ | ⟨stays, -⟩
      · rw [clients, departed] at departs
        obtain ⟨rfl, -⟩ := Prod.mk.inj (Option.some.inj departs)
        rw [after]
        refine .clearing option rfl ?_ rooms
        rw [if_neg decided, clients]
      · rw [clients, departed] at stays
        cases stays
  | replaced departure decided clients rooms swept =>
    have unchanged : event.leave race = race := by
      unfold Reconnect.leave
      rw [departure]
      simp only [Gateway.depart]
      rw [← departure]
    rw [unchanged]
    exact .replaced departure decided clients rooms swept
  | clearing option departure clients rooms =>
    -- what was recorded so far is cleared with the old session
    have after : event.leave race =
        { race with
          departure := .telling bind.client option
          gateway :=
            { race.gateway with rooms := race.gateway.rooms.removeClient bind.client }
          swept := race.noted } := by
      unfold Reconnect.leave
      rw [departure]
      rfl
    rw [after]
    refine .cleared option [] (Or.inl rfl) clients (List.append_nil _).symm ?_
    dsimp only
    rw [rooms]
    rfl
  | cleared option kept departure clients noted rooms =>
    have after : ∃ world, event.leave race =
        { race with departure := .settled (some (bind.client, option)), world := world } := by
      unfold Reconnect.leave
      rcases departure with telling | settled
      · rw [telling]
        simp only [Gateway.depart]
        cases race.gateway.hooks.disconnect <;> exact ⟨_, rfl⟩
      · rw [settled]
        exact ⟨race.world, rfl⟩
    obtain ⟨world, after⟩ := after
    rw [after]
    exact .cleared option kept (Or.inr rfl) clients noted rooms

theorem Progress.leave (progress : event.Progress gateway bind race) :
    event.Progress gateway bind (event.leave race) := by
  have settings : (event.leave race).gateway.pending = race.gateway.pending ∧
      (event.leave race).gateway.clock = race.gateway.clock := by
    unfold Reconnect.leave
    cases race.departure with
    | due =>
      simp only [Gateway.depart, Gateway.deregister]
      cases (race.gateway.clients.deregister event.old).departed <;> exact ⟨rfl, rfl⟩
    | clearing id option => exact ⟨rfl, rfl⟩
    | telling id option =>
      simp only [Gateway.depart]
      cases race.gateway.hooks.disconnect <;> exact ⟨rfl, rfl⟩
    | settled answer => exact ⟨rfl, rfl⟩
  exact progress.congr rfl settings.1 settings.2 rfl rfl

/-! ### Steps of the connect event -/

private theorem come_due (sets : event.Sets gateway bind)
    (arrival : race.arrival = .due event.token) (pending : race.gateway.pending = gateway.pending) :
    event.come race =
      { race with
        arrival := .admitted bind
        gateway :=
          { race.gateway with
            pending := (gateway.pending.beginConnect event.token event.now).2 } } := by
  have admitted := sets.admitted
  unfold come
  rw [arrival]
  simp only [Gateway.arrive, pending]
  cases begun : gateway.pending.beginConnect event.token event.now with
  | mk admission left =>
    rw [begun] at admitted
    dsimp only at admitted
    subst admitted
    rfl

private theorem come_admitted (event : Reconnect World)
    (consistent : race.gateway.clients.Consistent) (arrival : race.arrival = .admitted bind) :
    ∃ world, event.come race =
      { race with
        arrival := .registered bind
        gateway :=
          { race.gateway with
            clients := event.joined race.gateway bind race.gateway.clients
            clock := race.gateway.clock.advance }
        world := world } := by
  have accepted := consistent.register_ok bind.client event.new bind.option race.gateway.clock.now
  unfold come
  rw [arrival]
  simp only [Gateway.arrive, Gateway.register, accepted]
  exact ⟨_, rfl⟩

/-- After the last update, the hook answers; then nothing more happens to the stores. -/
theorem come_finish (event : Reconnect World) (bind : PendingBind) (todo : race.todo = [])
    (arrival : race.arrival = .registered bind ∨ (∃ cause, race.arrival = .spurned cause) ∨
      ∃ answer, race.arrival = .settled answer) :
    ∃ reached world, event.come race = { race with arrival := reached, world := world } ∧
      ((∃ cause, reached = .spurned cause) ∨ ∃ answer, reached = .settled answer) := by
  unfold come
  rw [todo]
  rcases arrival with registered | ⟨cause, spurned⟩ | ⟨answer, settled⟩
  · rw [registered]
    simp only [Gateway.arrive]
    cases race.gateway.hooks.connect with
    | none => exact ⟨_, _, rfl, Or.inr ⟨_, rfl⟩⟩
    | some hook =>
      dsimp only
      cases hook bind.client bind.option race.world with
      | mk answer after =>
        cases answer with
        | ok => exact ⟨_, _, rfl, Or.inr ⟨_, rfl⟩⟩
        | error reason => exact ⟨_, _, rfl, Or.inl ⟨_, rfl⟩⟩
  · rw [spurned]
    exact ⟨_, _, rfl, Or.inr ⟨_, rfl⟩⟩
  · rw [settled]
    exact ⟨_, _, rfl, Or.inr ⟨_, rfl⟩⟩

/-- A step that only puts the client into the registry. -/
theorem Stores.join (stores : event.Stores gateway bind race)
    (undecided : ¬ race.arrival.isDecided = true) (clock : race.gateway.clock = gateway.clock)
    (departure : next.departure = race.departure) (decided : next.arrival.isDecided = true)
    (clients : next.gateway.clients = event.joined race.gateway bind race.gateway.clients)
    (rooms : next.gateway.rooms = race.gateway.rooms) (noted : next.noted = race.noted)
    (swept : next.swept = race.swept) : event.Stores gateway bind next := by
  have joins : next.gateway.clients = event.joined gateway bind race.gateway.clients := by
    rw [clients, joined, joined, clock]
  cases stores with
  | ahead atDeparture atClients atRooms atSwept =>
    rw [if_neg undecided] at atClients
    exact .ahead (departure.trans atDeparture) (by rw [if_pos decided, joins, atClients])
      (by rw [rooms, noted, atRooms]) (swept.trans atSwept)
  | replaced _ atDecided => exact absurd atDecided undecided
  | clearing option atDeparture atClients atRooms =>
    rw [if_neg undecided] at atClients
    exact .clearing option (departure.trans atDeparture)
      (by rw [if_pos decided, joins, atClients]) (by rw [rooms, noted, atRooms])
  | cleared option kept atDeparture atClients atNoted atRooms =>
    rw [if_neg undecided] at atClients
    exact .cleared option kept (by rw [departure]; exact atDeparture)
      (by rw [if_pos decided, joins, atClients]) (by rw [noted, swept, atNoted])
      (by rw [rooms, swept, atRooms])

/-- Until the client has come, its registration cannot be refused. -/
theorem Stores.consistent (sets : event.Sets gateway bind)
    (stores : event.Stores gateway bind race) (undecided : ¬ race.arrival.isDecided = true) :
    race.gateway.clients.Consistent := by
  cases stores with
  | ahead _ clients =>
    rw [clients, if_neg undecided]
    exact sets.consistent
  | replaced _ decided => exact absurd decided undecided
  | clearing _ _ clients =>
    rw [clients, if_neg undecided]
    exact sets.consistent.deregister event.old
  | cleared _ _ _ clients =>
    rw [clients, if_neg undecided]
    exact sets.consistent.deregister event.old

/-- What holds after each step of the race. -/
structure Sound (event : Reconnect World) (gateway : Gateway World) (bind : PendingBind)
    (race : Race World) : Prop where
  stores : event.Stores gateway bind race
  progress : event.Progress gateway bind race

theorem Sound.come (sets : event.Sets gateway bind) (sound : event.Sound gateway bind race) :
    event.Sound gateway bind (event.come race) := by
  have stores := sound.stores
  cases sound.progress with
  | due arrival pending clock todo noted =>
    rw [come_due sets arrival pending]
    refine ⟨stores.congr rfl rfl rfl rfl rfl ?_, .admitted rfl clock todo noted⟩
    rw [arrival]
    rfl
  | admitted arrival clock todo noted =>
    have undecided : ¬ race.arrival.isDecided = true := by
      rw [arrival]
      exact Bool.false_ne_true
    obtain ⟨world, after⟩ := come_admitted event (stores.consistent sets undecided) arrival
    rw [after]
    exact ⟨stores.join undecided clock rfl rfl rfl rfl rfl rfl,
      .registered rfl (by rw [noted, todo]; rfl)⟩
  | registered arrival updates =>
    cases remaining : race.todo with
    | nil =>
      obtain ⟨reached, world, after, finished⟩ := come_finish event bind remaining (Or.inl arrival)
      rw [after]
      refine ⟨stores.congr rfl rfl rfl rfl rfl ?_, .finished finished remaining ?_⟩
      · rw [arrival]
        rcases finished with ⟨cause, rfl⟩ | ⟨answer, rfl⟩ <;> rfl
      · rw [← updates, remaining, List.append_nil]
    | cons update rest =>
      have after : event.come race =
          { race with
            gateway :=
              { race.gateway with rooms := update.apply bind.client race.gateway.rooms }
            todo := rest
            noted := race.noted ++ [update] } := by
        unfold Reconnect.come
        rw [arrival, remaining]
      rw [after]
      refine ⟨stores.note [update] rfl rfl rfl rfl rfl rfl, .registered arrival ?_⟩
      rw [← updates, remaining, List.append_assoc]
      rfl
  | finished arrival todo noted =>
    obtain ⟨reached, world, after, finished⟩ := come_finish event bind todo (Or.inr arrival)
    rw [after]
    refine ⟨stores.congr rfl rfl rfl rfl rfl ?_, .finished finished todo noted⟩
    rcases finished with ⟨cause, rfl⟩ | ⟨answer, rfl⟩ <;>
      rcases arrival with ⟨cause', before⟩ | ⟨answer', before⟩ <;> rw [before] <;> rfl

theorem sound_run (sets : event.Sets gateway bind) (world : World) (schedule : List Party) :
    event.Sound gateway bind (event.run gateway world schedule) := by
  induction schedule using List.reverseRecOn with
  | nil => exact ⟨.ahead rfl rfl rfl rfl, .due rfl rfl rfl rfl rfl⟩
  | append_singleton schedule party inductionHypothesis =>
    have next : event.run gateway world (schedule ++ [party]) =
        event.step (event.run gateway world schedule) party := by
      simp only [run, List.foldl_append, List.foldl_cons, List.foldl_nil]
    rw [next]
    cases party with
    | leaver =>
      exact ⟨inductionHypothesis.stores.leave sets, inductionHypothesis.progress.leave⟩
    | comer => exact inductionHypothesis.come sets

end Steps

/-! ### Result -/

variable {event : Reconnect World} {gateway : Gateway World} {bind : PendingBind}

/-- When both events are over, everything was recorded, and what was swept came first. -/
theorem Sound.outcome {race : Race World} (sound : event.Sound gateway bind race)
    (isOver : race.IsOver) :
    (race.gateway.clients = event.left (event.joined gateway bind gateway.clients) ∧
      race.gateway.rooms = RoomUpdate.applyAll bind.client event.updates gateway.rooms ∧
      race.swept = []) ∨
    (race.gateway.clients = event.joined gateway bind (event.left gateway.clients) ∧
      ∃ kept, event.updates = race.swept ++ kept ∧
        race.gateway.rooms = RoomUpdate.applyAll bind.client kept
          ((RoomUpdate.applyAll bind.client race.swept gateway.rooms).removeClient
            bind.client)) := by
  obtain ⟨⟨answer, departed⟩, result, arrived⟩ := isOver
  have noted : race.noted = event.updates := by
    cases sound.progress with
    | due arrival => cases arrived.symm.trans arrival
    | admitted arrival => cases arrived.symm.trans arrival
    | registered arrival => cases arrived.symm.trans arrival
    | finished _ _ noted => exact noted
  cases sound.stores with
  | ahead departure => cases departed.symm.trans departure
  | replaced _ _ clients rooms swept => exact Or.inl ⟨clients, by rw [rooms, noted], swept⟩
  | clearing _ departure => cases departed.symm.trans departure
  | cleared option kept departure clients split rooms =>
    rw [arrived] at clients
    exact Or.inr ⟨clients, kept, by rw [← noted, split], rooms⟩

/-- However a disconnect event and a connect event of one client interleave, the clients end as in
one of the two orders. The groups and rooms do so too exactly if the hook repeats, after those of
the old session were cleared, whatever it had recorded before. -/
theorem race_serial_iff (event : Reconnect World) (gateway : Gateway World) (bind : PendingBind)
    (sets : event.Sets gateway bind) (world : World) (schedule : List Party)
    (isOver : (event.run gateway world schedule).IsOver) :
    let race := event.run gateway world schedule
    (race.gateway.clients = (event.leaverFirst gateway world).clients ∨
      race.gateway.clients = (event.comerFirst gateway world).clients) ∧
    (event.Serial gateway world race.gateway ↔
      RoomUpdate.Repeats race.swept (event.updates.drop race.swept.length)) := by
  intro race
  obtain ⟨leaverClients, leaverRooms⟩ := leaverFirst_stores sets world
  obtain ⟨comerClients, comerRooms⟩ := comerFirst_stores sets world
  rcases (sound_run sets world schedule).outcome isOver with
    ⟨clients, rooms, swept⟩ | ⟨clients, kept, split, rooms⟩
  · refine ⟨Or.inr (clients.trans comerClients.symm), ?_⟩
    have serial : event.Serial gateway world race.gateway := by
      refine Or.inr ⟨clients.trans comerClients.symm, ?_⟩
      rw [comerRooms, ← rooms]
      exact RoomRegistry.Same.refl _
    have nothingSwept : race.swept = [] := swept
    rw [nothingSwept]
    exact iff_of_true serial ⟨by simp, by simp⟩
  · refine ⟨Or.inl (clients.trans leaverClients.symm), ?_⟩
    have keeps : event.updates.drop race.swept.length = kept := by
      rw [split]
      exact List.drop_left
    have forgets : RoomRegistry.Same race.gateway.rooms
        (RoomUpdate.applyAll bind.client kept (gateway.rooms.removeClient bind.client)) := by
      rw [rooms]
      exact RoomUpdate.applyAll_same
        (RoomUpdate.removeClient_applyAll bind.client race.swept gateway.rooms) bind.client kept
    rw [keeps]
    constructor
    · rintro (⟨-, same⟩ | ⟨-, same⟩)
      · rw [leaverRooms, split] at same
        exact .of_same (forgets.symm.trans same)
      · rw [comerRooms, split] at same
        exact .of_same (forgets.symm.trans same)
    · intro repeats
      refine Or.inl ⟨clients.trans leaverClients.symm, ?_⟩
      rw [leaverRooms, split]
      exact forgets.trans (repeats.same _)

/-! ### One race, in two schedules -/

/-- A client is online, and a second handshake of it was let in. -/
def awaited : Service Recording :=
  Deployment.after
    { transport := Recording.transport fun _ => []
      tokens := fun number => ⟨number.repr⟩
      config := {}
      clock := .fixed 0
      world := {} }
    [.authenticate (Handshake.withQuery {} "token" "u1") 0, .connect ⟨"0"⟩ ⟨⟨"c1"⟩, "first"⟩ 1,
      .authenticate (Handshake.withQuery {} "token" "u1") 2]

/-- The client comes back on the second connection and joins a group. -/
def comeback : Reconnect Recording where
  transport := Recording.transport fun _ => []
  old := ⟨⟨"c1"⟩, "first"⟩
  new := ⟨⟨"c2"⟩, "second"⟩
  token := ⟨"1"⟩
  now := 3
  updates := [.addStaffer "support"]

private theorem comeback_sets : comeback.Sets awaited.gateway ⟨⟨"u1"⟩, ""⟩ where
  consistent := Deployment.consistent_after _ _
  bound := by decide +kernel
  elsewhere := by decide
  admitted := by decide +kernel

/-- The groups of the old session are cleared before those of the new one are recorded. -/
theorem comeback_serial :
    comeback.Sets awaited.gateway ⟨⟨"u1"⟩, ""⟩ ∧
      (comeback.run awaited.gateway awaited.world
        [.comer, .leaver, .comer, .leaver, .comer, .leaver, .comer]).IsOver ∧
      comeback.Serial awaited.gateway awaited.world
        (comeback.run awaited.gateway awaited.world
          [.comer, .leaver, .comer, .leaver, .comer, .leaver, .comer]).gateway := by
  have isOver : (comeback.run awaited.gateway awaited.world
      [.comer, .leaver, .comer, .leaver, .comer, .leaver, .comer]).IsOver :=
    ⟨⟨_, rfl⟩, _, rfl⟩
  refine ⟨comeback_sets, isOver, ?_⟩
  have nothingSwept : (comeback.run awaited.gateway awaited.world
      [.comer, .leaver, .comer, .leaver, .comer, .leaver, .comer]).swept = [] := by
    decide +kernel
  have result := race_serial_iff comeback awaited.gateway ⟨⟨"u1"⟩, ""⟩ comeback_sets awaited.world
    _ isOver
  refine result.2.mpr ?_
  rw [nothingSwept]
  exact ⟨by simp, by simp⟩

/-- The groups of the old session are cleared after those of the new one were recorded, which no
order of the two events does. -/
theorem comeback_forgotten :
    (comeback.run awaited.gateway awaited.world
      [.leaver, .comer, .comer, .comer, .leaver, .leaver, .comer]).IsOver ∧
      ¬ comeback.Serial awaited.gateway awaited.world
        (comeback.run awaited.gateway awaited.world
          [.leaver, .comer, .comer, .comer, .leaver, .leaver, .comer]).gateway := by
  refine ⟨⟨⟨_, rfl⟩, _, rfl⟩, ?_⟩
  rintro (⟨-, same⟩ | ⟨-, same⟩)
  · exact absurd (same.staffers "support") (by decide +kernel)
  · exact absurd (same.staffers "support") (by decide +kernel)

end Reconnect

end SocketGateway
