import Mathlib.Data.List.Induction
import SocketGateway.Client
import SocketGateway.Proofs.History
import SocketGateway.Proofs.Hub.Rooms
import SocketGateway.Transport.Recorder

/-!
Contract: the calls that the operations of a client make on its transport.

Owns:
- the transport that does what another one does, and notes every call with its answer;
- for each operation, which calls it makes, in which order, and that it stops at the first one that
  is refused;
- transports that record who is in which room, and that on these a client joins a room again only
  after it left it.

Does not own: what a transport makes of a call.
-/

namespace SocketGateway

variable {World : Type}

/-- A call on a connection and what the transport answered. -/
structure Exchange where
  call : Entry
  answer : Except TransportError Unit

/-- An answer to a call, with the exchange added to the exchanges beside the world. -/
def noting (call : Entry) (exchanges : List Exchange)
    (answer : Except TransportError Unit × World) :
    Except TransportError Unit × (World × List Exchange) :=
  (answer.1, (answer.2, exchanges ++ [⟨call, answer.1⟩]))

namespace Transport

/-- Does what the transport does, and notes every call and its answer beside the world. A disconnect
is never refused. -/
def noted (transport : Transport World) : Transport (World × List Exchange) where
  emit := fun connection event data world =>
    noting (.emit connection.label event data) world.2
      (transport.emit connection event data world.1)
  join := fun connection room world =>
    noting (.join connection.label room) world.2 (transport.join connection room world.1)
  leave := fun connection room world =>
    noting (.leave connection.label room) world.2 (transport.leave connection room world.1)
  rooms := fun connection world => transport.rooms connection world.1
  broadcast := fun connection room event data world =>
    noting (.broadcast connection.label room event data) world.2
      (transport.broadcast connection room event data world.1)
  disconnect := fun connection world =>
    (transport.disconnect connection world.1, world.2 ++ [⟨.disconnect connection.label, .ok ()⟩])

/-- The transport records in which rooms a connection is: a join and a leave change that for their
room and no other, and nothing if they are refused. -/
structure Records (transport : Transport World) (connection : Connection) : Prop where
  join : ∀ room world other,
    other ∈ transport.rooms connection (transport.join connection room world).2 ↔
      (other = room ∧ (transport.join connection room world).1 = .ok ()) ∨
        other ∈ transport.rooms connection world
  leave : ∀ room world other,
    other ∈ transport.rooms connection (transport.leave connection room world).2 ↔
      ¬ (other = room ∧ (transport.leave connection room world).1 = .ok ()) ∧
        other ∈ transport.rooms connection world

end Transport

/-! ### Transports that record rooms -/

@[simp]
theorem Recording.roomsOf_setRooms (recording : Recording) (label : String) (rooms : List String) :
    (recording.setRooms label rooms).roomsOf label = rooms := by
  simp [setRooms, roomsOf]

@[simp]
theorem Recording.roomsOf_note (recording : Recording) (entry : Entry) (label : String) :
    (recording.note entry).roomsOf label = recording.roomsOf label :=
  rfl

private theorem Recording.mem_joined {room other : String} {rooms : List String} :
    other ∈ joined room rooms ↔ other = room ∨ other ∈ rooms := by
  unfold joined
  split
  · next among => exact (or_iff_right_of_imp fun same => same ▸ among).symm
  · rw [List.mem_append, List.mem_singleton, or_comm]

theorem Recording.records_transport (refusals : String → List Refusal) (connection : Connection) :
    (transport refusals).Records connection where
  join := by
    intro room recording other
    simp only [transport]
    cases answer (refusals connection.label) .join room <;> simp [mem_joined]
  leave := by
    intro room recording other
    simp only [transport]
    cases answer (refusals connection.label) .leave room <;> simp [and_comm]

private theorem isOk_iff_eq {refusal : Type} {answer : Except refusal Unit} :
    answer.isOk = true ↔ answer = .ok () := by
  cases answer <;> simp [Except.isOk, Except.toBool]

theorem Hub.records_transport (Other : Type) (connection : Connection) :
    (transport Other).Records connection where
  join := by
    rintro room ⟨hub, beside⟩ other
    simp only [transport, Hub.beside, mem_roomsOf, ← isOk_iff_eq, isOk_join]
    by_cases isPeer : connection.id ∈ hub.peers
    · rw [hasRoom_join isPeer, eq_comm, and_iff_left isPeer]
    · simp [join_of_not_peer isPeer, isPeer]
  leave := by
    rintro room ⟨hub, beside⟩ other
    simp only [transport, Hub.beside, mem_roomsOf, ← isOk_iff_eq, isOk_leave]
    by_cases isPeer : connection.id ∈ hub.peers
    · rw [hasRoom_leave isPeer, ne_comm, and_iff_left isPeer]
    · simp [leave_of_not_peer isPeer, isPeer]

/-! ### One room after the other -/

/-- What comes of a call on one room after the other: it is made on all of them and never refused,
or it is made on them up to the first one for which it is refused, and that refusal is passed on. -/
inductive Sweeps (call : String → Entry) :
    List String → List Exchange → Except GatewayError Unit → Prop where
  | through (rooms : List String) :
      Sweeps call rooms (rooms.map fun room => ⟨call room, .ok ()⟩) (.ok ())
  | refused (done : List String) (room : String) (rest : List String) (cause : TransportError) :
      Sweeps call (done ++ room :: rest)
        (done.map (fun room => ⟨call room, .ok ()⟩) ++ [⟨call room, .error cause⟩])
        (.error (.transport cause))

theorem Sweeps.cons {call : String → Entry} {rooms : List String} {made : List Exchange}
    {answer : Except GatewayError Unit} (sweeps : Sweeps call rooms made answer) (room : String) :
    Sweeps call (room :: rooms) (⟨call room, .ok ()⟩ :: made) answer := by
  cases sweeps with
  | through rooms => exact .through (room :: rooms)
  | refused done other rest cause => exact .refused (room :: done) other rest cause

namespace Client

variable {transport : Transport World} {client : Client} {connection : Connection}

/-- The exchanges beside the world that an answer leaves. -/
def withExchanges (answer : Except GatewayError Unit × World) (exchanges : List Exchange) :
    Except GatewayError Unit × (World × List Exchange) :=
  (answer.1, (answer.2, exchanges))

/-- Calling on one room after the other, which noting does not disturb. -/
theorem forRooms_noting (call : String → Entry)
    (act : String → World → Except TransportError Unit × World) (rooms : List String)
    (world : World) (exchanges : List Exchange) :
    ∃ made, Sweeps call rooms made (forRooms act rooms world).1 ∧
      forRooms (fun room world => noting (call room) world.2 (act room world.1)) rooms
          (world, exchanges) =
        withExchanges (forRooms act rooms world) (exchanges ++ made) := by
  induction rooms generalizing world exchanges with
  | nil => exact ⟨[], .through [], by simp [forRooms, withExchanges]⟩
  | cons room rest inductionHypothesis =>
    cases answer : act room world with
    | mk outcome after =>
      cases outcome with
      | ok =>
        obtain ⟨made, sweeps, noted⟩ :=
          inductionHypothesis after (exchanges ++ [⟨call room, .ok ()⟩])
        refine ⟨⟨call room, .ok ()⟩ :: made, ?_, ?_⟩
        · rw [forRooms, answer]
          exact sweeps.cons room
        · rw [forRooms, forRooms, noting, answer]
          simpa using noted
      | error cause =>
        refine ⟨[⟨call room, .error cause⟩], ?_, ?_⟩
        · rw [forRooms, answer]
          exact .refused [] room rest cause
        · rw [forRooms, forRooms, noting, answer]
          rfl

/-! ### One operation -/

section Bound

variable (bound : client.connection = some connection) (world : World) (exchanges : List Exchange)

include bound

private theorem send_bound (event : String) (data : Json) :
    client.send transport event data world =
      passOn (transport.emit connection event data world) := by
  simp only [send, whenBound, bound]

private theorem join_empty : client.join transport "" world = (.error emptyRoom, world) := by
  simp [join, whenBound, bound]

private theorem leave_empty : client.leave transport "" world = (.error emptyRoom, world) := by
  simp [leave, whenBound, bound]

private theorem join_reported {room : String} (named : room ≠ "")
    (reported : room ∈ transport.rooms connection world) :
    client.join transport room world = (.ok (), world) := by
  simp [join, whenBound, bound, named, reported]

private theorem join_unreported {room : String} (named : room ≠ "")
    (unreported : room ∉ transport.rooms connection world) :
    client.join transport room world = passOn (transport.join connection room world) := by
  simp [join, whenBound, bound, named, unreported]

private theorem leave_named {room : String} (named : room ≠ "") :
    client.leave transport room world = passOn (transport.leave connection room world) := by
  simp [leave, whenBound, bound, named]

private theorem leaveRooms_noted :
    ∃ made, Sweeps (.leave connection.label) (transport.rooms connection world) made
        (client.leaveRooms transport world).1 ∧
      client.leaveRooms transport.noted (world, exchanges) =
        withExchanges (client.leaveRooms transport world) (exchanges ++ made) := by
  simp only [leaveRooms, whenBound, bound]
  exact forRooms_noting _ (transport.leave connection) _ world exchanges

private theorem broadcast_noted (event : String) (data : Json) (rooms : List String) :
    ∃ made, Sweeps (fun room => .broadcast connection.label room event data)
        (if rooms = [] then transport.rooms connection world else rooms) made
        (client.broadcast transport event data rooms world).1 ∧
      client.broadcast transport.noted event data rooms (world, exchanges) =
        withExchanges (client.broadcast transport event data rooms world) (exchanges ++ made) := by
  simp only [broadcast, whenBound, bound, List.isEmpty_iff]
  exact forRooms_noting _ (fun room => transport.broadcast connection room event data) _ world
    exchanges

end Bound

/-! ### Rows of joins and leaves -/

/-- What a client may ask for a room. -/
inductive RoomCall where
  | join (room : String)
  | leave (room : String)

def perform (transport : Transport World) (client : Client) (world : World) :
    RoomCall → Except GatewayError Unit × World
  | .join room => client.join transport room world
  | .leave room => client.leave transport room world

/-- The exchanges of a row of joins and leaves. -/
def exchangesOf (transport : Transport World) (client : Client) (world : World)
    (calls : List RoomCall) : List Exchange :=
  (stateAfter (client.perform transport.noted) (world, []) calls).2

/-- The transport let a connection into a room. -/
def joinOf (connection : Connection) (room : String) : Exchange :=
  ⟨.join connection.label room, .ok ()⟩

/-- The transport let a connection out of a room. -/
def leaveOf (connection : Connection) (room : String) : Exchange :=
  ⟨.leave connection.label room, .ok ()⟩

/-- A room was joined, and was not left since. -/
def Stays (connection : Connection) (exchanges : List Exchange) (room : String) : Prop :=
  ∃ earlier, Since (fun _ exchange => exchange = joinOf connection room)
    (fun exchange => exchange = leaveOf connection room) exchanges earlier

/-- The transport sees the client in the rooms where it stays, and no room was joined where it
stayed. -/
structure Alternates (transport : Transport World) (connection : Connection)
    (state : World × List Exchange) : Prop where
  member : ∀ room, Stays connection state.2 room → room ∈ transport.rooms connection state.1
  apart : ∀ before exchange, before ++ [exchange] <+: state.2 →
    ∀ room, exchange = joinOf connection room → ¬ Stays connection before room

/-- A join or a leave makes one call at most, and no join where the transport sees the client. -/
theorem perform_noted (transport : Transport World) (bound : client.connection = some connection)
    (world : World) (exchanges : List Exchange) (call : RoomCall) :
    (client.perform transport.noted (world, exchanges) call).2 = (world, exchanges) ∨
    (∃ room, room ∉ transport.rooms connection world ∧
      (client.perform transport.noted (world, exchanges) call).2 =
        ((transport.join connection room world).2, exchanges ++
          [⟨.join connection.label room, (transport.join connection room world).1⟩])) ∨
    ∃ room, (client.perform transport.noted (world, exchanges) call).2 =
      ((transport.leave connection room world).2, exchanges ++
        [⟨.leave connection.label room, (transport.leave connection room world).1⟩]) := by
  cases call with
  | join room =>
    by_cases named : room = ""
    · subst named
      exact Or.inl (congrArg Prod.snd (join_empty bound (world, exchanges)))
    by_cases reported : room ∈ transport.noted.rooms connection (world, exchanges)
    · exact Or.inl (congrArg Prod.snd (join_reported bound _ named reported))
    · exact Or.inr (Or.inl
        ⟨room, reported, congrArg Prod.snd (join_unreported bound _ named reported)⟩)
  | leave room =>
    by_cases named : room = ""
    · subst named
      exact Or.inl (congrArg Prod.snd (leave_empty bound (world, exchanges)))
    · exact Or.inr (Or.inr ⟨room, congrArg Prod.snd (leave_named bound _ named)⟩)

/-- Only joining a room without a refusal counts as joining it. -/
theorem exchange_join_eq {room other : String} {answer : Except TransportError Unit} :
    (⟨.join connection.label room, answer⟩ : Exchange) = joinOf connection other ↔
      other = room ∧ answer = .ok () := by
  simp only [joinOf, Exchange.mk.injEq, Entry.join.injEq, true_and, eq_comm]

private theorem exchange_leave_eq {room other : String} {answer : Except TransportError Unit} :
    (⟨.leave connection.label room, answer⟩ : Exchange) = leaveOf connection other ↔
      other = room ∧ answer = .ok () := by
  simp only [leaveOf, Exchange.mk.injEq, Entry.leave.injEq, true_and, eq_comm]

theorem Alternates.perform (records : transport.Records connection)
    (bound : client.connection = some connection) {state : World × List Exchange}
    (alternates : Alternates transport connection state) (call : RoomCall) :
    Alternates transport connection (client.perform transport.noted state call).2 := by
  obtain ⟨world, exchanges⟩ := state
  obtain ⟨member, apart⟩ := alternates
  rcases perform_noted transport bound world exchanges call with
    same | ⟨room, unreported, made⟩ | ⟨room, made⟩
  · rw [same]
    exact ⟨member, apart⟩
  · rw [made]
    constructor
    · -- The last call is the only one that can have put the client where it was not.
      intro other stays
      rw [records.join]
      rcases exists_since_concat.mp stays with isJoin | ⟨stayed, -⟩
      · exact Or.inl (exchange_join_eq.mp isJoin)
      · exact Or.inr (member other stayed)
    · refine forall_before_concat.mpr ⟨apart, ?_⟩
      intro other isJoin stayed
      obtain ⟨rfl, -⟩ := exchange_join_eq.mp isJoin
      exact unreported (member other stayed)
  · rw [made]
    constructor
    · intro other stays
      rw [records.leave]
      rcases exists_since_concat.mp stays with isJoin | ⟨stayed, notLeft⟩
      · cases isJoin
      · exact ⟨fun isLeave => notLeft (exchange_leave_eq.mpr isLeave), member other stayed⟩
    · refine forall_before_concat.mpr ⟨apart, ?_⟩
      intro other isJoin
      cases isJoin

/-- By induction on the last call: where the client stays the transport reports it, and a room that
is reported is not joined. -/
theorem alternates (records : transport.Records connection)
    (bound : client.connection = some connection) (world : World) (calls : List RoomCall) :
    Alternates transport connection
      (stateAfter (client.perform transport.noted) (world, []) calls) := by
  induction calls using List.reverseRecOn with
  | nil =>
    constructor
    · rintro room ⟨earlier, since⟩
      exact absurd since not_since_nil
    · intro before exchange among
      cases List.append_eq_nil_iff.mp (List.prefix_nil.mp among) |>.2
  | append_singleton calls call inductionHypothesis =>
    rw [stateAfter_concat]
    exact inductionHypothesis.perform records bound call

/-- Where the transport records who is in which room, a room is left between any two joins of it. -/
theorem joins_parted (records : transport.Records connection)
    (bound : client.connection = some connection) (world : World) (calls : List RoomCall)
    {before between after : List Exchange} {room : String}
    (made : exchangesOf transport client world calls =
      before ++ joinOf connection room :: between ++ joinOf connection room :: after) :
    leaveOf connection room ∈ between := by
  by_contra notLeft
  have among : before ++ joinOf connection room :: between ++ [joinOf connection room] <+:
      exchangesOf transport client world calls :=
    ⟨after, by rw [made]; simp⟩
  refine (alternates records bound world calls).apart _ _ among room rfl ⟨before, ?_⟩
  refine ⟨joinOf connection room, between, rfl, rfl, ?_⟩
  rintro other among rfl
  exact notLeft among

/-- What a client calls on its transport, whatever the transport reports and refuses. An unbound
client calls nothing, and says that it is unbound before it looks at the room. A bound one joins and
leaves no room without a name and joins none where the transport sees it already; else it makes the
one call that it is asked for. To leave all rooms or to broadcast, it calls for one room after the
other and stops at the first refusal, which is passed on. So, where the transport records who is in
which room, it joins a room again only after it left it. -/
theorem room_calls_exact (transport : Transport World) (client : Client) :
    (client.connection = none → ∀ world exchanges event data room rooms,
      let unbound := (.error (.notBound client.id.text), (world, exchanges))
      client.send transport.noted event data (world, exchanges) = unbound ∧
      client.join transport.noted room (world, exchanges) = unbound ∧
      client.leave transport.noted room (world, exchanges) = unbound ∧
      client.leaveRooms transport.noted (world, exchanges) = unbound ∧
      client.broadcast transport.noted event data rooms (world, exchanges) = unbound) ∧
    ∀ connection, client.connection = some connection →
      (∀ world exchanges,
        let label := connection.label
        let reported := transport.rooms connection world
        (∀ event data, client.send transport.noted event data (world, exchanges) =
          passOn (noting (.emit label event data) exchanges
            (transport.emit connection event data world))) ∧
        client.join transport.noted "" (world, exchanges) =
          (.error emptyRoom, (world, exchanges)) ∧
        client.leave transport.noted "" (world, exchanges) =
          (.error emptyRoom, (world, exchanges)) ∧
        (∀ room ≠ "",
          (room ∈ reported →
            client.join transport.noted room (world, exchanges) = (.ok (), (world, exchanges))) ∧
          (room ∉ reported → client.join transport.noted room (world, exchanges) =
            passOn (noting (.join label room) exchanges (transport.join connection room world))) ∧
          client.leave transport.noted room (world, exchanges) =
            passOn (noting (.leave label room) exchanges (transport.leave connection room world))) ∧
        (∃ made, Sweeps (.leave label) reported made (client.leaveRooms transport world).1 ∧
          client.leaveRooms transport.noted (world, exchanges) =
            withExchanges (client.leaveRooms transport world) (exchanges ++ made)) ∧
        ∀ event data rooms, ∃ made,
          Sweeps (fun room => .broadcast label room event data)
            (if rooms = [] then reported else rooms) made
            (client.broadcast transport event data rooms world).1 ∧
          client.broadcast transport.noted event data rooms (world, exchanges) =
            withExchanges (client.broadcast transport event data rooms world)
              (exchanges ++ made)) ∧
      (transport.Records connection → ∀ world calls room before between after,
        exchangesOf transport client world calls =
            before ++ joinOf connection room :: between ++ joinOf connection room :: after →
          leaveOf connection room ∈ between) := by
  constructor
  · intro unbound world exchanges event data room rooms
    simp [send, join, leave, leaveRooms, broadcast, whenBound, unbound]
  · intro connection bound
    constructor
    · intro world exchanges label reported
      refine ⟨send_bound bound _, join_empty bound _, leave_empty bound _, ?_,
        leaveRooms_noted bound world exchanges, broadcast_noted bound world exchanges⟩
      intro room named
      exact ⟨fun isReported => join_reported bound _ named isReported,
        fun unreported => join_unreported bound _ named unreported, leave_named bound _ named⟩
    · intro records world calls room before between after
      exact joins_parted records bound world calls

/-- A client on a connection that is in three rooms and cannot leave the second one. -/
def guest : Client where
  id := ⟨"u"⟩
  connection := some ⟨⟨"c"⟩, "c"⟩

def stubborn : Transport Recording :=
  Recording.transport fun _ => [{ call := .leave, argument := some "b", cause := .rejected "b" }]

def threeRooms : Recording where
  rooms := .ofList [("c", ["a", "b", "d"])]

/-- The guest stops leaving rooms at the one that it cannot leave, and joins a room again once it
left it. Unbound, it is turned away although it names no room. -/
theorem guest_calls :
    (guest.leaveRooms stubborn.noted (threeRooms, [])).2.2 =
      [⟨.leave "c" "a", .ok ()⟩, ⟨.leave "c" "b", .error (.rejected "b")⟩] ∧
    Sweeps (.leave "c") ["a", "b", "d"] (guest.leaveRooms stubborn.noted (threeRooms, [])).2.2
      (.error (.transport (.rejected "b"))) ∧
    (∃ between,
      exchangesOf stubborn guest threeRooms [.join "r", .join "r", .leave "r", .join "r"] =
        joinOf ⟨⟨"c"⟩, "c"⟩ "r" :: between ++ [joinOf ⟨⟨"c"⟩, "c"⟩ "r"] ∧
      leaveOf ⟨⟨"c"⟩, "c"⟩ "r" ∈ between) ∧
    guest.unbind.join stubborn.noted "" (threeRooms, []) =
      (.error (.notBound "u"), (threeRooms, [])) := by
  obtain ⟨calls, parted⟩ := (room_calls_exact stubborn guest).2 ⟨⟨"c"⟩, "c"⟩ rfl
  obtain ⟨-, -, -, -, ⟨made, sweeps, leaves⟩, -⟩ := calls threeRooms []
  obtain ⟨turnedAway, -⟩ := room_calls_exact stubborn guest.unbind
  have run : exchangesOf stubborn guest threeRooms [.join "r", .join "r", .leave "r", .join "r"] =
      [] ++ joinOf ⟨⟨"c"⟩, "c"⟩ "r" :: [leaveOf ⟨⟨"c"⟩, "c"⟩ "r"] ++
        joinOf ⟨⟨"c"⟩, "c"⟩ "r" :: [] := rfl
  refine ⟨rfl, ?_, ⟨_, run, ?_⟩, (turnedAway rfl threeRooms [] "" .null "" []).2.1⟩
  · rw [leaves]
    exact sweeps
  · exact parted (Recording.records_transport _ _) threeRooms _ "r" [] _ [] run

end Client

end SocketGateway
