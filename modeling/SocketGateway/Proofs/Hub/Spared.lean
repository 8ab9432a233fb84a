import SocketGateway.Proofs.Hub.Calls

/-!
Contract: what calls on one socket leave alone, and what they make of that socket.

Owns:
- that a call changes neither the rooms nor the members nor the closing of any other socket, and
  that queueing changes those of no socket;
- the rooms of a socket after it joined or left one;
- the sockets that are closed after a call.

Does not own: rows of calls.
-/

namespace SocketGateway

/-- The socket that a call is made on. -/
def SocketCall.socket : SocketCall → ConnectionId
  | .emit id _ _ => id
  | .join id _ => id
  | .leave id _ => id
  | .broadcast sender _ _ _ => sender
  | .ack id _ _ => id
  | .ping id => id
  | .disconnect id => id
  | .abandonQueue id => id

/-- Whether the call concerns queues only. -/
def SocketCall.queues : SocketCall → Bool
  | .join _ _ | .leave _ _ | .disconnect _ => false
  | _ => true

namespace Hub

/-- Between the two hubs, nothing changed for a socket but its queue. -/
structure Spares (other : ConnectionId) (before after : Hub) : Prop where
  rooms : after.peers[other]? = before.peers[other]?
  listed : ∀ room, Lists after.members room other ↔ Lists before.members room other
  closed : after.isClosed other = before.isClosed other

section

variable {hub before middle after : Hub} {id other someone : ConnectionId} {room : String}

theorem Spares.refl (other : ConnectionId) (hub : Hub) : Spares other hub hub :=
  ⟨rfl, fun _ => Iff.rfl, rfl⟩

theorem Spares.trans (first : Spares other before middle) (second : Spares other middle after) :
    Spares other before after where
  rooms := second.rooms.trans first.rooms
  listed room := (second.listed room).trans (first.listed room)
  closed := second.closed.trans first.closed

theorem Spares.hasRoom (spares : Spares other before after) (room : String) :
    after.HasRoom other room ↔ before.HasRoom other room := by
  unfold HasRoom
  rw [spares.rooms]

theorem Spares.mem_peers (spares : Spares other before after) :
    other ∈ after.peers ↔ other ∈ before.peers := by
  rw [Std.TreeMap.mem_iff_isSome_getElem?, spares.rooms, ← Std.TreeMap.mem_iff_isSome_getElem?]

theorem Spares.roomsOf (spares : Spares other before after) :
    after.roomsOf other = before.roomsOf other := by
  unfold Hub.roomsOf
  rw [spares.rooms]

theorem Spares.mem_membersOf (spares : Spares other before after) :
    other ∈ after.membersOf room ↔ other ∈ before.membersOf room := by
  rw [Hub.mem_membersOf, Hub.mem_membersOf, spares.listed]

theorem spares_recount (hub : Hub) (other : ConnectionId) (reserved : Nat) :
    Spares other hub { hub with reserved := reserved } :=
  ⟨rfl, fun _ => Iff.rfl, rfl⟩

/-! ### Closed sockets -/

private theorem isClosed_insert (hub : Hub) (id other : ConnectionId) (socket : Socket) :
    isClosed { hub with sockets := hub.sockets.insert id socket } other =
      if id = other then socket.closed else hub.isClosed other := by
  by_cases same : id = other <;> simp [isClosed, Hub.socket, Std.TreeMap.getD_insert, same]

/-- Replacing what is known of a socket spares the others, and the socket itself if it stays open
or closed. -/
theorem spares_insert (hub : Hub) {socket : Socket}
    (same : id = other → socket.closed = hub.isClosed id) :
    Spares other hub { hub with sockets := hub.sockets.insert id socket } where
  rooms := rfl
  listed _ := Iff.rfl
  closed := by
    rw [isClosed_insert]
    split
    · next itself => rw [same itself, itself]
    · rfl

private theorem spares_enqueue (hub : Hub) (id other : ConnectionId) (item : Outbound) :
    Spares other hub (hub.enqueue id item).2 := by
  unfold enqueue
  dsimp only
  split
  · exact hub.spares_insert fun _ => rfl
  · exact Spares.refl other hub

private theorem spares_offers (item : Outbound) (other : ConnectionId)
    (receivers : List ConnectionId) (hub : Hub) :
    Spares other hub (receivers.foldl (fun hub member => hub.offer member item) hub) := by
  induction receivers generalizing hub with
  | nil => exact Spares.refl other hub
  | cons receiver rest inductionHypothesis =>
    exact (hub.spares_enqueue receiver other item).trans (inductionHypothesis _)

private theorem spares_detach (hub : Hub) (different : id ≠ other) :
    Spares other hub (hub.detach id) := by
  unfold detach
  cases hub.peers[id]? with
  | none => exact Spares.refl other hub
  | some rooms =>
    refine ⟨?_, ?_, rfl⟩
    · simp [Std.TreeMap.getElem?_erase, different]
    · intro room
      rw [lists_removeMembers]
      exact and_iff_left fun itself => different itself.2

private theorem isClosed_detach (hub : Hub) (id other : ConnectionId) :
    (hub.detach id).isClosed other = hub.isClosed other := by
  unfold detach
  cases hub.peers[id]? <;> rfl

theorem isClosed_join (hub : Hub) (id other : ConnectionId) (room : String) :
    (hub.join id room).2.isClosed other = hub.isClosed other := by
  unfold join
  cases hub.peers[id]? <;> rfl

theorem isClosed_leave (hub : Hub) (id other : ConnectionId) (room : String) :
    (hub.leave id room).2.isClosed other = hub.isClosed other := by
  unfold leave
  cases hub.peers[id]? <;> rfl

private theorem isClosed_markClosed (hub : Hub) (id other : ConnectionId) :
    (hub.markClosed id).isClosed other = (hub.isClosed other || id == other) := by
  rw [markClosed, isClosed_insert]
  by_cases same : id = other <;> simp [same]

/-- Releasing a socket closes it. -/
theorem isClosed_release (hub : Hub) (id other : ConnectionId) :
    (hub.release id).isClosed other = (hub.isClosed other || id == other) := by
  rw [release, isClosed_detach, isClosed_markClosed]

/-- Disconnecting closes a socket, unless it is closed already. -/
theorem isClosed_disconnect (hub : Hub) (id other : ConnectionId) :
    (hub.disconnect id).isClosed other = (hub.isClosed other || id == other) := by
  unfold disconnect
  split
  · next closed =>
    by_cases same : id = other
    · rw [← same, closed, Bool.true_or]
    · simp [same]
  · rw [offer, (spares_enqueue _ id other .close).closed, isClosed_detach, isClosed_markClosed]

theorem isClosed_openSocket (hub : Hub) (id : ConnectionId) :
    (hub.openSocket id).isClosed id = false := by
  simp [openSocket, isClosed, Hub.socket]

/-! ### Other sockets -/

theorem spares_openSocket (hub : Hub) (different : id ≠ other) :
    Spares other hub (hub.openSocket id) where
  rooms := by simp [openSocket, Std.TreeMap.getElem?_insert, different]
  listed _ := Iff.rfl
  closed := by simp [openSocket, isClosed, Hub.socket, Std.TreeMap.getD_insert, different]

theorem spares_release (hub : Hub) (different : id ≠ other) :
    Spares other hub (hub.release id) :=
  (hub.spares_insert fun itself => absurd itself different).trans (spares_detach _ different)

theorem spares_disconnect (hub : Hub) (different : id ≠ other) :
    Spares other hub (hub.disconnect id) := by
  unfold disconnect
  split
  · exact Spares.refl other hub
  · exact (hub.spares_release different).trans (spares_enqueue _ id other .close)

private theorem spares_join (hub : Hub) (room : String) (different : id ≠ other) :
    Spares other hub (hub.join id room).2 := by
  unfold join
  cases hub.peers[id]? with
  | none => exact Spares.refl other hub
  | some rooms =>
    refine ⟨?_, ?_, rfl⟩
    · simp [Std.TreeMap.getElem?_insert, different]
    · intro listed
      rw [lists_insertMember]
      exact or_iff_right fun itself => different itself.2

private theorem spares_leave (hub : Hub) (room : String) (different : id ≠ other) :
    Spares other hub (hub.leave id room).2 := by
  unfold leave
  cases hub.peers[id]? with
  | none => exact Spares.refl other hub
  | some rooms =>
    refine ⟨?_, ?_, rfl⟩
    · simp [Std.TreeMap.getElem?_insert, different]
    · intro listed
      rw [lists_removeMember]
      exact and_iff_left fun itself => different itself.2

/-- A call spares all sockets but its own, and that one too if it only queues something. -/
theorem spares_call (hub : Hub) {call : SocketCall}
    (apart : call.socket ≠ other ∨ call.queues = true) : Spares other hub (hub.call call) := by
  have onOther : call.queues = false → call.socket ≠ other :=
    fun settles => apart.resolve_right (Bool.eq_false_iff.mp settles)
  cases call with
  | emit id event data =>
    rw [Hub.call, emit]
    split
    · exact Spares.refl other hub
    · exact hub.spares_enqueue id other _
  | join id room => exact hub.spares_join room (onOther rfl)
  | leave id room => exact hub.spares_leave room (onOther rfl)
  | broadcast sender room event data =>
    rw [Hub.call, broadcast]
    split
    · exact Spares.refl other hub
    · exact spares_offers _ other _ hub
  | ack id number response => exact hub.spares_enqueue id other _
  | ping id => exact hub.spares_enqueue id other _
  | disconnect id => exact hub.spares_disconnect (onOther rfl)
  | abandonQueue id => exact hub.spares_insert fun _ => rfl

/-- A socket that is closed stays closed. -/
theorem closed_call (closed : hub.isClosed other = true) (call : SocketCall) :
    (hub.call call).isClosed other = true := by
  by_cases apart : call.socket ≠ other ∨ call.queues = true
  · exact (hub.spares_call apart).closed.trans closed
  · rw [not_or, Bool.not_eq_true] at apart
    cases call with
    | join id room => exact (isClosed_join hub id other room).trans closed
    | leave id room => exact (isClosed_leave hub id other room).trans closed
    | disconnect id => rw [Hub.call, isClosed_disconnect, closed, Bool.true_or]
    | _ => cases apart.2

/-! ### The socket itself -/

theorem isOk_join : (hub.join id room).1.isOk = true ↔ id ∈ hub.peers := by
  rw [Std.TreeMap.mem_iff_isSome_getElem?, join]
  cases hub.peers[id]? <;> simp [Except.isOk, Except.toBool]

theorem isOk_leave : (hub.leave id room).1.isOk = true ↔ id ∈ hub.peers := by
  rw [Std.TreeMap.mem_iff_isSome_getElem?, leave]
  cases hub.peers[id]? <;> simp [Except.isOk, Except.toBool]

/-- A socket that is not open joins nothing. -/
theorem join_of_not_peer (notPeer : id ∉ hub.peers) (room : String) :
    hub.join id room = (.error (.closed id.text), hub) := by
  rw [join, Std.TreeMap.getElem?_eq_none notPeer, gone]

theorem leave_of_not_peer (notPeer : id ∉ hub.peers) (room : String) :
    hub.leave id room = (.error (.closed id.text), hub) := by
  rw [leave, Std.TreeMap.getElem?_eq_none notPeer, gone]

theorem hasRoom_join (isPeer : id ∈ hub.peers) (other : String) :
    (hub.join id room).2.HasRoom id other ↔ room = other ∨ hub.HasRoom id other := by
  rw [Std.TreeMap.mem_iff_isSome_getElem?, Option.isSome_iff_exists] at isPeer
  obtain ⟨rooms, found⟩ := isPeer
  simp only [join, found, hasRoom_insert, if_true, Std.TreeSet.mem_insert,
    Std.LawfulEqCmp.compare_eq_iff_eq]
  simp [HasRoom, found]

theorem hasRoom_leave (isPeer : id ∈ hub.peers) (other : String) :
    (hub.leave id room).2.HasRoom id other ↔ room ≠ other ∧ hub.HasRoom id other := by
  rw [Std.TreeMap.mem_iff_isSome_getElem?, Option.isSome_iff_exists] at isPeer
  obtain ⟨rooms, found⟩ := isPeer
  simp only [leave, found, hasRoom_insert, if_true, Std.TreeSet.mem_erase]
  simp [HasRoom, found]

/-- A socket that is disconnected is off the hub, if no closed socket was on it. -/
theorem not_mem_disconnect (settled : hub.isClosed id = true → id ∉ hub.peers) :
    id ∉ (hub.disconnect id).peers := by
  unfold disconnect
  split
  · next closed => exact settled closed
  · rw [offer, (spares_enqueue _ id id .close).mem_peers]
    exact fun isPeer => (mem_detach.mp isPeer).1 rfl

end

end Hub

end SocketGateway
