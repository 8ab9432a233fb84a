import Mathlib.Data.List.Induction
import Mathlib.Data.List.Perm.Subperm
import SocketGateway.Hub

/-!
Contract: what calls on sockets can make of a hub.

Owns:
- consistency: the rooms of the sockets and the members of the rooms are the same pairs, and no room
  is kept without members;
- the calls that whoever holds the connection of a socket can make, and rows of them;
- that calls neither open sockets nor touch reservations, that they keep a hub consistent, and that
  only one of them takes a socket off the hub;
- slots and new sockets, as far as runs of any kind need them, and the closing of a connection that
  a registry gave up.

Does not own: who makes calls, or queues.
-/

namespace SocketGateway

inductive SocketCall where
  | emit (id : ConnectionId) (event : String) (data : Json)
  | join (id : ConnectionId) (room : String)
  | leave (id : ConnectionId) (room : String)
  | broadcast (sender : ConnectionId) (room event : String) (data : Json)
  | ack (id : ConnectionId) (number : UInt64) (response : String)
  | ping (id : ConnectionId)
  | disconnect (id : ConnectionId)
  /-- Its queue is not taken from any more. -/
  | abandonQueue (id : ConnectionId)

/-- Whether the call takes a socket off the hub. -/
def SocketCall.closes : SocketCall → Bool
  | .disconnect _ => true
  | _ => false

namespace Hub

def call (hub : Hub) : SocketCall → Hub
  | .emit id event data => (hub.emit id event data).2
  | .join id room => (hub.join id room).2
  | .leave id room => (hub.leave id room).2
  | .broadcast sender room event data => (hub.broadcast sender room event data).2
  | .ack id number response => (hub.sendAck id number response).2
  | .ping id => (hub.ping id).2
  | .disconnect id => hub.disconnect id
  | .abandonQueue id => hub.abandonQueue id

/-- Calls lead from one hub to the other; whether one of them may close a socket is given. -/
def Reaches (mayClose : Bool) (before after : Hub) : Prop :=
  ∃ calls : List SocketCall, (∀ call ∈ calls, call.closes = true → mayClose = true) ∧
    calls.foldl call before = after

/-- The socket is listed in the room. -/
def Lists (members : Std.TreeMap String (Std.TreeSet ConnectionId)) (room : String)
    (id : ConnectionId) : Prop :=
  ∃ present, members[room]? = some present ∧ id ∈ present

/-- The room is among those of an open socket. -/
def HasRoom (hub : Hub) (id : ConnectionId) (room : String) : Prop :=
  ∃ rooms, hub.peers[id]? = some rooms ∧ room ∈ rooms

/-- No room is kept without members. -/
def Peopled (members : Std.TreeMap String (Std.TreeSet ConnectionId)) : Prop :=
  ∀ (room : String) (present : Std.TreeSet ConnectionId), members[room]? = some present →
    ∃ id, id ∈ present

/-- The two tables of a hub agree. -/
structure Consistent (hub : Hub) : Prop where
  paired : ∀ (room : String) (id : ConnectionId), Lists hub.members room id ↔ hub.HasRoom id room
  peopled : Peopled hub.members

theorem mem_membersOf {hub : Hub} {room : String} {id : ConnectionId} :
    id ∈ hub.membersOf room ↔ Lists hub.members room id := by
  unfold membersOf Lists
  cases hub.members[room]? <;> simp

theorem HasRoom.isPeer {hub : Hub} {id : ConnectionId} {room : String}
    (hasRoom : hub.HasRoom id room) : id ∈ hub.peers := by
  obtain ⟨rooms, found, -⟩ := hasRoom
  exact Std.TreeMap.mem_iff_isSome_getElem?.mpr (by rw [found]; rfl)

/-- Who is not on the hub is in no room. -/
theorem Consistent.not_member {hub : Hub} (consistent : hub.Consistent) {id : ConnectionId}
    (notPeer : id ∉ hub.peers) (room : String) : id ∉ hub.membersOf room := by
  rw [mem_membersOf, consistent.paired]
  exact fun hasRoom => notPeer hasRoom.isPeer

theorem consistent_empty : Consistent {} where
  paired := by simp [Lists, HasRoom]
  peopled := by
    intro room present found
    simp at found

/-- Reservations do not matter to the rooms. -/
theorem Consistent.recount {hub : Hub} (consistent : hub.Consistent) (reserved : Nat) :
    Consistent { hub with reserved := reserved } :=
  ⟨consistent.paired, consistent.peopled⟩

/-! ### Members of rooms -/

section Members

variable {members : Std.TreeMap String (Std.TreeSet ConnectionId)}

theorem lists_removeMember (id : ConnectionId)
    (members : Std.TreeMap String (Std.TreeSet ConnectionId)) (room other : String)
    (someone : ConnectionId) :
    Lists (removeMember id members room) other someone ↔
      Lists members other someone ∧ ¬ (room = other ∧ id = someone) := by
  unfold removeMember Lists
  cases found : members[room]? with
  | none =>
    refine ⟨fun ⟨present, at_, member⟩ => ⟨⟨present, at_, member⟩, ?_⟩, And.left⟩
    rintro ⟨rfl, -⟩
    cases at_.symm.trans found
  | some present =>
    by_cases same : room = other
    · subst same
      have left : ∀ x, x ∈ present.erase id ↔ id ≠ x ∧ x ∈ present := by
        intro x
        simp [Std.TreeSet.mem_erase]
      dsimp only
      split
      · next nobody =>
        -- the room is dropped, and nobody else was in it
        have gone := (left someone).not.mp (Std.TreeSet.isEmpty_iff_forall_not_mem.mp nobody _)
        simp only [Std.TreeMap.getElem?_erase_self, found]
        grind
      · simp only [Std.TreeMap.getElem?_insert_self, found]
        grind
    · dsimp only
      split
      · simp [Std.TreeMap.getElem?_erase, same]
      · simp [Std.TreeMap.getElem?_insert, same]

theorem Peopled.removeMember (peopled : Peopled members) (id : ConnectionId)
    (room : String) : Peopled (removeMember id members room) := by
  unfold Hub.removeMember
  cases found : members[room]? with
  | none => exact peopled
  | some present =>
    intro other left atOther
    dsimp only at atOther
    split at atOther
    · simp only [Std.TreeMap.getElem?_erase] at atOther
      split at atOther
      · cases atOther
      · exact peopled other left atOther
    · next somebody =>
      simp only [Std.TreeMap.getElem?_insert] at atOther
      split at atOther
      · cases atOther
        exact Std.TreeSet.isEmpty_eq_false_iff_exists_mem.mp (Bool.eq_false_iff.mpr somebody)
      · exact peopled other left atOther

/-- Removing a socket from several rooms, one after the other. -/
theorem lists_removeMembers (id : ConnectionId) (rooms : List String)
    (members : Std.TreeMap String (Std.TreeSet ConnectionId)) (other : String)
    (someone : ConnectionId) :
    Lists (rooms.foldl (removeMember id) members) other someone ↔
      Lists members other someone ∧ ¬ (other ∈ rooms ∧ id = someone) := by
  induction rooms generalizing members with
  | nil => simp
  | cons room rest inductionHypothesis =>
    rw [List.foldl_cons, inductionHypothesis, lists_removeMember, and_assoc]
    grind

theorem lists_insertMember (id : ConnectionId)
    (members : Std.TreeMap String (Std.TreeSet ConnectionId)) (room other : String)
    (someone : ConnectionId) :
    Lists (members.insert room ((members.getD room ∅).insert id)) other someone ↔
      (room = other ∧ id = someone) ∨ Lists members other someone := by
  unfold Lists
  by_cases same : room = other
  · subst same
    cases found : members[room]? <;> simp [Std.TreeMap.getD_eq_getD_getElem?, found]
  · simp [Std.TreeMap.getElem?_insert, same]

private theorem Peopled.insertMember (peopled : Peopled members) (id : ConnectionId)
    (room : String) : Peopled (members.insert room ((members.getD room ∅).insert id)) := by
  intro other present atOther
  simp only [Std.TreeMap.getElem?_insert] at atOther
  split at atOther
  · cases atOther
    exact ⟨id, Std.TreeSet.mem_insert_self⟩
  · exact peopled other present atOther

private theorem Peopled.removeMembers (peopled : Peopled members) (id : ConnectionId)
    (rooms : List String) : Peopled (rooms.foldl (Hub.removeMember id) members) := by
  induction rooms generalizing members with
  | nil => exact peopled
  | cons room rest inductionHypothesis =>
    exact inductionHypothesis (peopled.removeMember id room)

end Members

/-! ### What calls keep -/

/-- From the first hub to the second one, no socket was opened and no reservation touched. -/
structure Follows (before after : Hub) : Prop where
  consistent : before.Consistent → after.Consistent
  reserved : after.reserved = before.reserved
  peers : ∀ {id : ConnectionId}, id ∈ after.peers → id ∈ before.peers

section Follows

variable {hub before middle after : Hub} {id : ConnectionId} {room : String}

theorem Follows.refl (hub : Hub) : Follows hub hub := ⟨id, rfl, id⟩

theorem Follows.trans (first : Follows before middle) (second : Follows middle after) :
    Follows before after where
  consistent := second.consistent ∘ first.consistent
  reserved := second.reserved.trans first.reserved
  peers := first.peers ∘ second.peers

private theorem follows_queues (hub : Hub) (sockets : Std.TreeMap ConnectionId Socket) :
    Follows hub { hub with sockets := sockets } where
  consistent consistent := ⟨consistent.paired, consistent.peopled⟩
  reserved := rfl
  peers := fun isPeer => isPeer

private theorem enqueue_eq (hub : Hub) (id : ConnectionId) (item : Outbound) :
    ∃ sockets, (hub.enqueue id item).2 = { hub with sockets := sockets } := by
  unfold enqueue
  dsimp only
  split
  · exact ⟨_, rfl⟩
  · exact ⟨hub.sockets, rfl⟩

private theorem offers_eq (item : Outbound) (receivers : List ConnectionId) (hub : Hub) :
    ∃ sockets, receivers.foldl (fun hub member => hub.offer member item) hub =
      { hub with sockets := sockets } := by
  induction receivers generalizing hub with
  | nil => exact ⟨hub.sockets, rfl⟩
  | cons receiver rest inductionHypothesis =>
    obtain ⟨sockets, offered⟩ := hub.enqueue_eq receiver item
    obtain ⟨final, rest_eq⟩ := inductionHypothesis (hub.offer receiver item)
    refine ⟨final, ?_⟩
    rw [List.foldl_cons, rest_eq, offer, offered]

theorem mem_detach {other : ConnectionId} :
    other ∈ (hub.detach id).peers ↔ id ≠ other ∧ other ∈ hub.peers := by
  unfold detach
  cases found : hub.peers[id]? with
  | none =>
    refine ⟨fun isPeer => ⟨?_, isPeer⟩, And.right⟩
    rintro rfl
    rw [Std.TreeMap.mem_iff_isSome_getElem?, found] at isPeer
    cases isPeer
  | some rooms => simp [Std.TreeMap.mem_erase]

private theorem follows_detach (hub : Hub) (id : ConnectionId) : Follows hub (hub.detach id) where
  consistent := by
    intro consistent
    unfold detach
    cases found : hub.peers[id]? with
    | none => exact consistent
    | some rooms =>
      constructor
      · intro room someone
        -- the rooms that the socket is removed from are all rooms that list it
        rw [lists_removeMembers, consistent.paired]
        unfold HasRoom
        simp only [Std.TreeMap.getElem?_erase, Std.TreeSet.mem_toList]
        by_cases itself : id = someone
        · simp [← itself, found]
        · simp [itself]
      · exact consistent.peopled.removeMembers id rooms.toList
  reserved := by
    unfold detach
    cases hub.peers[id]? <;> rfl
  peers isPeer := (mem_detach.mp isPeer).2

theorem follows_disconnect (hub : Hub) (id : ConnectionId) : Follows hub (hub.disconnect id) := by
  unfold disconnect
  split
  · exact Follows.refl hub
  · obtain ⟨sockets, offered⟩ := ((hub.markClosed id).detach id).enqueue_eq id .close
    rw [offer, offered]
    exact ((hub.follows_queues _).trans (follows_detach _ id)).trans (follows_queues _ sockets)

theorem follows_release (hub : Hub) (id : ConnectionId) : Follows hub (hub.release id) :=
  (hub.follows_queues _).trans (follows_detach _ id)

/-- A socket leaves the hub only when it is closed itself. -/
theorem mem_disconnect {other : ConnectionId} (different : id ≠ other)
    (isPeer : other ∈ hub.peers) : other ∈ (hub.disconnect id).peers := by
  unfold disconnect
  split
  · exact isPeer
  · obtain ⟨sockets, offered⟩ := ((hub.markClosed id).detach id).enqueue_eq id .close
    rw [offer, offered]
    exact mem_detach.mpr ⟨different, isPeer⟩

theorem mem_release {other : ConnectionId} :
    other ∈ (hub.release id).peers ↔ id ≠ other ∧ other ∈ hub.peers :=
  mem_detach

/-- Changing the rooms of an open socket opens none. -/
theorem mem_insert_of_peer {rooms : Std.TreeSet String} (found : hub.peers[id]? = some rooms)
    (changed : Std.TreeSet String) {other : ConnectionId} :
    other ∈ hub.peers.insert id changed ↔ other ∈ hub.peers := by
  have isPeer : id ∈ hub.peers := by
    rw [Std.TreeMap.mem_iff_isSome_getElem?, found]
    rfl
  simp only [Std.TreeMap.mem_insert, Std.LawfulEqCmp.compare_eq_iff_eq]
  refine ⟨?_, Or.inr⟩
  rintro (rfl | others)
  · exact isPeer
  · exact others

theorem hasRoom_insert (rooms : Std.TreeSet String) (members : Std.TreeMap String _)
    (someone : ConnectionId) (other : String) :
    HasRoom { hub with peers := hub.peers.insert id rooms, members := members } someone other ↔
      if id = someone then other ∈ rooms else hub.HasRoom someone other := by
  unfold HasRoom
  by_cases same : id = someone <;> simp [Std.TreeMap.getElem?_insert, same]

theorem mem_join {other : ConnectionId} :
    other ∈ (hub.join id room).2.peers ↔ other ∈ hub.peers := by
  unfold join
  cases found : hub.peers[id]? with
  | none => rfl
  | some rooms => exact mem_insert_of_peer found _

private theorem follows_join (hub : Hub) (id : ConnectionId) (room : String) :
    Follows hub (hub.join id room).2 where
  consistent := by
    intro consistent
    unfold join
    cases found : hub.peers[id]? with
    | none => exact consistent
    | some rooms =>
      constructor
      · intro other someone
        rw [hasRoom_insert, lists_insertMember, consistent.paired]
        by_cases itself : id = someone
        · simp [← itself, HasRoom, found, Std.TreeSet.mem_insert]
        · simp [itself]
      · exact consistent.peopled.insertMember id room
  reserved := by
    unfold join
    cases hub.peers[id]? <;> rfl
  peers isPeer := mem_join.mp isPeer

theorem mem_leave {other : ConnectionId} :
    other ∈ (hub.leave id room).2.peers ↔ other ∈ hub.peers := by
  unfold leave
  cases found : hub.peers[id]? with
  | none => rfl
  | some rooms => exact mem_insert_of_peer found _

private theorem follows_leave (hub : Hub) (id : ConnectionId) (room : String) :
    Follows hub (hub.leave id room).2 where
  consistent := by
    intro consistent
    unfold leave
    cases found : hub.peers[id]? with
    | none => exact consistent
    | some rooms =>
      constructor
      · intro other someone
        rw [hasRoom_insert, lists_removeMember, consistent.paired]
        by_cases itself : id = someone
        · simp [← itself, HasRoom, found, Std.TreeSet.mem_erase, and_comm]
        · simp [itself]
      · exact consistent.peopled.removeMember id room
  reserved := by
    unfold leave
    cases hub.peers[id]? <;> rfl
  peers isPeer := mem_leave.mp isPeer

/-- A call that does not close changes rooms or queues only. -/
theorem call_open (hub : Hub) {call : SocketCall} (stays : call.closes = false) :
    Follows hub (hub.call call) ∧ ∀ id, id ∈ (hub.call call).peers ↔ id ∈ hub.peers := by
  have queued : ∀ {after : Hub}, (∃ sockets, after = { hub with sockets := sockets }) →
      Follows hub after ∧ ∀ id, id ∈ after.peers ↔ id ∈ hub.peers := by
    rintro _ ⟨sockets, rfl⟩
    exact ⟨hub.follows_queues sockets, fun id => Iff.rfl⟩
  cases call with
  | emit id event data =>
    apply queued
    rw [Hub.call, emit]
    split
    · exact ⟨hub.sockets, rfl⟩
    · exact hub.enqueue_eq id _
  | join id room => exact ⟨hub.follows_join id room, fun id => mem_join⟩
  | leave id room => exact ⟨hub.follows_leave id room, fun id => mem_leave⟩
  | broadcast sender room event data =>
    apply queued
    rw [Hub.call, broadcast]
    split
    · exact ⟨hub.sockets, rfl⟩
    · exact offers_eq _ _ hub
  | ack id number response => exact queued (hub.enqueue_eq id _)
  | ping id => exact queued (hub.enqueue_eq id _)
  | disconnect id => cases stays
  | abandonQueue id => exact queued ⟨_, rfl⟩

theorem follows_call (hub : Hub) (call : SocketCall) : Follows hub (hub.call call) := by
  cases closes : call.closes with
  | false => exact (hub.call_open closes).1
  | true =>
    cases call with
    | disconnect id => exact hub.follows_disconnect id
    | _ => cases closes

/-- No more sockets are open than before. -/
theorem Follows.size (follows : Follows before after) : after.peers.size ≤ before.peers.size := by
  have keys : after.peers.keys ⊆ before.peers.keys := by
    intro id isKey
    exact Std.TreeMap.mem_keys.mpr (follows.peers (Std.TreeMap.mem_keys.mp isKey))
  have length := (Std.TreeMap.nodup_keys.subperm keys).length_le
  rwa [Std.TreeMap.length_keys, Std.TreeMap.length_keys] at length

end Follows

/-! ### Slots -/

section Slots

variable {hub after : Hub} {id : ConnectionId} {capacity : Nat}

/-- A slot is reserved only below the capacity, and then only the count of reservations changes. -/
theorem reserve?_eq_some (reserved : hub.reserve? capacity = some after) :
    hub.occupied < capacity ∧ after = { hub with reserved := hub.reserved + 1 } := by
  unfold reserve? at reserved
  split at reserved
  · cases reserved
  · next free => exact ⟨Nat.lt_of_not_le free, (Option.some.inj reserved).symm⟩

/-- A slot is reserved exactly while one is free. -/
theorem isSome_reserve? : (hub.reserve? capacity).isSome ↔ hub.occupied < capacity := by
  unfold reserve?
  split
  · next full => simpa using full
  · next free => simpa using free

theorem mem_openSocket {other : ConnectionId} :
    other ∈ (hub.openSocket id).peers ↔ id = other ∨ other ∈ hub.peers := by
  simp [openSocket, Std.TreeMap.mem_insert]

theorem Follows.occupied_le (follows : Follows hub after) : after.occupied ≤ hub.occupied := by
  rw [occupied, occupied, follows.reserved]
  exact Nat.add_le_add_right follows.size _

theorem occupied_reserve? (reserved : hub.reserve? capacity = some after) :
    after.occupied = hub.occupied + 1 := by
  obtain ⟨-, rfl⟩ := reserve?_eq_some reserved
  rfl

/-- A reservation that is dropped frees its slot. -/
theorem occupied_dropReservation (hub : Hub) : hub.dropReservation.occupied ≤ hub.occupied :=
  Nat.add_le_add_left (Nat.sub_le _ _) _

/-- A socket takes over the slot of its reservation. -/
theorem occupied_openSocket (held : 0 < hub.reserved) (id : ConnectionId) :
    (hub.openSocket id).occupied ≤ hub.occupied := by
  have size : (hub.peers.insert id ∅).size ≤ hub.peers.size + 1 := Std.TreeMap.size_insert_le
  unfold occupied openSocket
  dsimp only
  omega

/-- A socket that was not open before is opened without rooms. -/
theorem Consistent.openSocket (consistent : hub.Consistent) (fresh : id ∉ hub.peers) :
    (hub.openSocket id).Consistent where
  paired room someone := by
    have before := consistent.paired room someone
    by_cases itself : id = someone
    · subst itself
      have noRooms : ¬ hub.HasRoom id room := fun hasRoom => fresh hasRoom.isPeer
      have stillNone : ¬ (hub.openSocket id).HasRoom id room := by
        simp [HasRoom, Hub.openSocket]
      exact iff_of_false (fun lists => noRooms (before.mp lists)) stillNone
    · simpa [HasRoom, Hub.openSocket, Std.TreeMap.getElem?_insert, itself] using before
  peopled := consistent.peopled

end Slots

/-! ### Rows of calls -/

section Rows

variable {mayClose : Bool} {before middle after : Hub}

theorem Reaches.refl (mayClose : Bool) (hub : Hub) : Reaches mayClose hub hub :=
  ⟨[], by simp, rfl⟩

theorem Reaches.trans (first : Reaches mayClose before middle)
    (second : Reaches mayClose middle after) : Reaches mayClose before after := by
  obtain ⟨firstCalls, firstAllowed, rfl⟩ := first
  obtain ⟨secondCalls, secondAllowed, rfl⟩ := second
  refine ⟨firstCalls ++ secondCalls, ?_, List.foldl_append⟩
  intro call among
  rcases List.mem_append.mp among with isFirst | isSecond
  · exact firstAllowed call isFirst
  · exact secondAllowed call isSecond

theorem reaches_call (hub : Hub) (call : SocketCall)
    (allowed : call.closes = true → mayClose = true) : Reaches mayClose hub (hub.call call) :=
  ⟨[call], by simpa using allowed, rfl⟩

/-- Whoever need not close sockets may do so. -/
theorem Reaches.weaken (reaches : Reaches mayClose before after) : Reaches true before after := by
  obtain ⟨calls, -, reached⟩ := reaches
  exact ⟨calls, fun _ _ _ => rfl, reached⟩

theorem Reaches.follows (reaches : Reaches mayClose before after) : Follows before after := by
  obtain ⟨calls, -, rfl⟩ := reaches
  induction calls using List.reverseRecOn with
  | nil => exact Follows.refl before
  | append_singleton calls call inductionHypothesis =>
    rw [List.foldl_append]
    exact inductionHypothesis.trans (follows_call _ call)

/-- Without a call that closes, the same sockets stay open. -/
theorem Reaches.mem_peers (reaches : Reaches false before after) {id : ConnectionId} :
    id ∈ after.peers ↔ id ∈ before.peers := by
  obtain ⟨calls, allowed, rfl⟩ := reaches
  induction calls using List.reverseRecOn with
  | nil => rfl
  | append_singleton calls call inductionHypothesis =>
    have last := Bool.eq_false_iff.mpr fun closes =>
      Bool.false_ne_true (allowed call (by simp) closes)
    rw [List.foldl_append, List.foldl_cons, List.foldl_nil, (call_open _ last).2]
    exact inductionHypothesis fun other among => allowed other (List.mem_append_left _ among)

end Rows

/-! ### Connections that a registry closes -/

/-- Closes a socket, if there is one to close. -/
def disconnectAny (hub : Hub) : Option Connection → Hub
  | none => hub
  | some connection => hub.disconnect connection.id

theorem disconnectAny_transport {App : Type} (connection : Option Connection)
    (world : Hub × App) :
    (transport App).disconnectAny connection world =
      (world.1.disconnectAny connection, world.2) := by
  cases connection <;> rfl

theorem reaches_disconnectAny (hub : Hub) (connection : Option Connection) :
    Reaches true hub (hub.disconnectAny connection) := by
  cases connection with
  | none => exact .refl true hub
  | some connection => exact hub.reaches_call (.disconnect connection.id) fun _ => rfl

theorem follows_disconnectAny (hub : Hub) (connection : Option Connection) :
    hub.Follows (hub.disconnectAny connection) :=
  (hub.reaches_disconnectAny connection).follows

end Hub

end SocketGateway
