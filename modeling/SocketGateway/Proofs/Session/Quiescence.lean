import SocketGateway.Proofs.Session.Applications

/-!
Contract: sessions leave nothing behind.

Owns:
- that a session that is over has neither client nor socket nor room, whatever goes on around it;
- that a server all of whose sessions are over is as empty as it was at the start.

The connections of the sessions are assumed to differ from each other.

Does not own: whether a session ends.
-/

namespace SocketGateway

/-- Nothing is left to do. -/
def Phase.isOver : Phase → Bool
  | .turnedAway => true
  | .unauthorized => true
  | .abandoned => true
  | .gone => true
  | _ => false

private theorem Phase.standing_of_isOver {phase : Phase} (isOver : phase.isOver = true) :
    phase.standing = .outside := by
  cases phase <;> first | rfl | cases isOver

/-- No client belongs to the connection, and its socket is neither open nor in a room. -/
structure Server.Forgets {App : Type} (server : Server App) (id : ConnectionId) : Prop where
  client : server.gateway.clients.lookup id = none
  peer : id ∉ server.hub.peers
  rooms : ∀ room, id ∉ server.hub.membersOf room

/-- Nobody is online or idle, and the hub has no socket, no room and no reservation. -/
structure Server.IsVacant {App : Type} (server : Server App) : Prop where
  clients : server.gateway.clients.clientIds = []
  idle : server.gateway.clients.idleEntries = []
  peers : server.hub.connectionCount = 0
  rooms : server.hub.members.isEmpty = true
  occupied : server.hub.occupied = 0

/-- If no connection belongs to a client, nobody is online or idle. -/
theorem ClientRegistry.Consistent.vacant {registry : ClientRegistry}
    (consistent : registry.Consistent) (unowned : ∀ key, ¬ (registry.lookup key).isSome) :
    registry.clientIds = [] ∧ registry.idleEntries = [] := by
  have noClient : ∀ id, id ∉ registry.clients := by
    intro id isClient
    obtain ⟨key, -, belongs⟩ := consistent.isOn_of_mem isClient
    refine unowned key ?_
    rw [belongs]
    rfl
  have noMark : registry.idleMarks.toList = [] := by
    refine List.eq_nil_iff_forall_not_mem.mpr ?_
    rintro ⟨id, mark⟩ among
    have found := Std.TreeMap.mem_toList_iff_getElem?_eq_some.mp among
    have isMarked : id ∈ registry.idleMarks :=
      Std.TreeMap.mem_iff_isSome_getElem?.mpr (by rw [found]; rfl)
    exact noClient id (consistent.marked isMarked)
  constructor
  · refine List.eq_nil_iff_forall_not_mem.mpr ?_
    intro id isKey
    exact noClient id (Std.TreeMap.mem_keys.mp isKey)
  · rw [idleEntries, noMark, List.mergeSort_nil, List.map_nil]

namespace Hub

variable {hub : Hub}

/-- If no socket is open, there is no room. -/
theorem Consistent.vacant (consistent : hub.Consistent) (closed : ∀ id, id ∉ hub.peers) :
    hub.connectionCount = 0 ∧ hub.members.isEmpty = true := by
  constructor
  · have empty := Std.TreeMap.isEmpty_iff_forall_not_mem.mpr closed
    rwa [Std.TreeMap.isEmpty_eq_size_eq_zero, beq_iff_eq] at empty
  · refine Std.TreeMap.isEmpty_iff_forall_not_mem.mpr ?_
    intro room isKept
    rw [Std.TreeMap.mem_iff_isSome_getElem?] at isKept
    obtain ⟨present, found⟩ := Option.isSome_iff_exists.mp isKept
    obtain ⟨id, isMember⟩ := consistent.peopled room present found
    exact consistent.not_member (closed id) room (mem_membersOf.mpr ⟨present, found, isMember⟩)

end Hub

namespace Site

variable {App : Type} {site : Site App} {traffic : Traffic App}

theorem Orderly.forgets (orderly : site.Orderly traffic)
    (distinct : Function.Injective site.connections) {index : Nat} {course : Course}
    (isAt : traffic.courses[index]? = some course) (isOver : course.phase.isOver = true) :
    traffic.server.Forgets (site.connections index) := by
  have standing := Phase.standing_of_isOver isOver
  have notPeer : site.connections index ∉ traffic.server.hub.peers := by
    intro isPeer
    have may := orderly.opened.may_of_held distinct isAt isPeer
    rw [standing] at may
    cases may
  have unbound : ¬ (traffic.server.gateway.clients.lookup (site.connections index)).isSome := by
    intro belongs
    have may := orderly.bound.may_of_held distinct isAt belongs
    rw [standing] at may
    cases may
  exact ⟨Option.not_isSome_iff_eq_none.mp unbound, notPeer, orderly.rooms.not_member notPeer⟩

theorem Orderly.isVacant (orderly : site.Orderly traffic)
    (allOver : ∀ course ∈ traffic.courses, course.phase.isOver = true) :
    traffic.server.IsVacant := by
  -- nothing is held, as whoever would have to give it back is over
  have nobody : ∀ {may : Standing → Bool} {held : ConnectionId → Prop}, may .outside = false →
      Covers site.connections traffic.courses may held → ∀ key, ¬ held key := by
    intro may held outside covers key isHeld
    obtain ⟨index, course, isAt, -, mayHold⟩ := covers key isHeld
    rw [Phase.standing_of_isOver (allOver course (List.mem_of_getElem? isAt)), outside] at mayHold
    cases mayHold
  have ⟨clients, idle⟩ := orderly.consistent.vacant (nobody rfl orderly.bound)
  have ⟨peers, rooms⟩ := orderly.rooms.vacant (nobody rfl orderly.opened)
  have noReservation : traffic.server.hub.reserved = 0 := by
    rw [orderly.reserved, List.countP_eq_zero]
    intro course among
    rw [Phase.standing_of_isOver (allOver course among)]
    decide
  have occupied : traffic.server.hub.occupied = 0 := by
    rw [Hub.connectionCount] at peers
    rw [Hub.occupied, peers, noReservation]
  exact ⟨clients, idle, peers, rooms, occupied⟩

/-- A session that is over has left nothing behind, and neither has a server all of whose sessions
are over. -/
theorem sessions_leave_nothing (site : Site App) (confined : site.Confined true)
    (distinct : Function.Injective site.connections) (events : List TrafficEvent) :
    (∀ (index : Nat) (course : Course), (site.after events).courses[index]? = some course →
      course.phase.isOver = true → (site.after events).server.Forgets (site.connections index)) ∧
    ((∀ course ∈ (site.after events).courses, course.phase.isOver = true) →
      (site.after events).server.IsVacant) := by
  have orderly := orderly_after confined distinct events fun _ _ _ => rfl
  exact ⟨fun index course isAt isOver => orderly.forgets distinct isAt isOver, orderly.isVacant⟩

/-! ### One evening -/

/-- A server that lets clients join rooms and hang up, and refuses one client. -/
def lounge : Site Journal :=
  stocked { maxConnections := 2 } { refusals := some [("u2", "banned")], farewells := true }
    [("join", some .join), ("bye", some .bye)]

/-- A client comes, joins a room and comes back on another connection while a refused one tries its
luck. In the end all of them leave. -/
def evening : List TrafficEvent :=
  [.request (Handshake.withQuery {} "token" "u1")] ++ List.replicate 7 (.advance 0 0) ++
    [.receive 0 "\x7b\"event\":\"join\",\"data\":\"hall\"\x7d",
      .request (Handshake.withQuery {} "token" "u1"),
      .request (Handshake.withQuery {} "token" "u2")] ++
    List.replicate 6 (.advance 1 1) ++ List.replicate 13 (.advance 2 2) ++
    List.replicate 6 (.advance 1 3) ++ List.replicate 5 (.advance 0 4)

theorem lounge_empty :
    lounge.Confined true ∧ Function.Injective lounge.connections ∧
      (∀ course ∈ (lounge.after evening).courses, course.phase.isOver = true) ∧
      (lounge.after evening).server.IsVacant := by
  have confined : lounge.Confined true := stocked_confined _ _ _ fun _ _ => rfl
  have allOver : (lounge.after evening).courses.all (fun course => course.phase.isOver) = true := by
    decide +kernel
  have everyOver := List.all_eq_true.mp allOver
  have distinct : Function.Injective lounge.connections := stocked_distinct _ _ _
  exact ⟨confined, distinct, everyOver,
    (sessions_leave_nothing lounge confined distinct evening).2 everyOver⟩

end Site

end SocketGateway
