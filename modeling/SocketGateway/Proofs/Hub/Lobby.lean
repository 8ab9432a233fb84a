import SocketGateway.Proofs.Hub.Spared

/-!
Contract: runs of everything that can happen to a hub.

Owns:
- the events of a hub: slots are reserved, reservations dropped or used for a socket, and sockets
  called and released, in any order;
- what was handed out in a run: every reservation with what became of it, and every socket that was
  opened with the rooms that it joined and left;
- what a hub has to do with all that, after any run in which no two sockets bear one id.

Does not own: queues.
-/

namespace SocketGateway

/-- Reservations go by their number, counted as they were handed out. -/
inductive HubEvent where
  | reserve
  | dropReservation (number : Nat)
  | openSocket (number : Nat) (id : ConnectionId)
  | call (call : SocketCall)
  | release (id : ConnectionId)

/-- The id that an event gives to a socket. -/
def HubEvent.opens? : HubEvent → Option ConnectionId
  | .openSocket _ id => some id
  | _ => none

/-- The socket that an event is about. -/
def HubEvent.socket? : HubEvent → Option ConnectionId
  | .openSocket _ id => some id
  | .call made => some made.socket
  | .release id => some id
  | _ => none

/-- What became of a reservation. -/
inductive Reservation where
  | held
  | opened
  | dropped
deriving DecidableEq, Repr

inductive Move where
  | joined (room : String)
  | left (room : String)
deriving DecidableEq, Repr

def Move.room : Move → String
  | .joined room => room
  | .left room => room

/-- A socket that was opened: whether it was disconnected or released since, and its joins and
leaves that succeeded, in order. -/
structure Visit where
  id : ConnectionId
  ended : Bool := false
  moves : List Move := []
deriving DecidableEq, Repr

namespace Visit

/-- Whether the visit is not over, and its last move in the room was to join it. -/
def staysIn (visit : Visit) (room : String) : Bool :=
  !visit.ended && (visit.moves.filter (·.room = room)).getLast? = some (.joined room)

def move (visit : Visit) (move : Move) : Visit := { visit with moves := visit.moves ++ [move] }

@[simp]
private theorem move_id (visit : Visit) (move : Move) : (visit.move move).id = visit.id := rfl

/-- What an event on that hub makes of the visit. A join or leave counts if the hub lets it. -/
def note (hub : Hub) (visit : Visit) : HubEvent → Visit
  | .call (.join id room) =>
    if id = visit.id ∧ (hub.join id room).1.isOk then visit.move (.joined room) else visit
  | .call (.leave id room) =>
    if id = visit.id ∧ (hub.leave id room).1.isOk then visit.move (.left room) else visit
  | .call (.disconnect id) => if id = visit.id then { visit with ended := true } else visit
  | .release id => if id = visit.id then { visit with ended := true } else visit
  | _ => visit

end Visit

/-- A hub, all reservations that it handed out, and all sockets that were opened in them. -/
structure Lobby where
  hub : Hub := {}
  reservations : List Reservation := []
  visits : List Visit := []

namespace Lobby

def reserve (capacity : Nat) (lobby : Lobby) : Lobby :=
  match lobby.hub.reserve? capacity with
  | none => lobby
  | some hub => { lobby with hub := hub, reservations := lobby.reservations ++ [.held] }

/-- Drops a reservation. One that was used for a socket is dropped without an effect. -/
def dropReservation (number : Nat) (lobby : Lobby) : Lobby :=
  if lobby.reservations[number]? = some .held then
    { lobby with
      hub := lobby.hub.dropReservation
      reservations := lobby.reservations.set number .dropped }
  else lobby

/-- Uses a reservation for a socket, which can be done once. -/
def openSocket (number : Nat) (id : ConnectionId) (lobby : Lobby) : Lobby :=
  if lobby.reservations[number]? = some .held then
    { hub := lobby.hub.openSocket id
      reservations := lobby.reservations.set number .opened
      visits := lobby.visits ++ [{ id := id }] }
  else lobby

/-- The hub changes, and the event is noted for all visits. -/
def proceed (event : HubEvent) (after : Hub) (lobby : Lobby) : Lobby :=
  { lobby with hub := after, visits := lobby.visits.map (·.note lobby.hub event) }

def perform (capacity : Nat) (lobby : Lobby) : HubEvent → Lobby
  | .reserve => lobby.reserve capacity
  | .dropReservation number => lobby.dropReservation number
  | .openSocket number id => lobby.openSocket number id
  | .call call => lobby.proceed (.call call) (lobby.hub.call call)
  | .release id => lobby.proceed (.release id) (lobby.hub.release id)

/-- What is there after a run of events on a new hub. -/
def after (capacity : Nat) (events : List HubEvent) : Lobby := events.foldl (perform capacity) {}

theorem after_concat (capacity : Nat) (events : List HubEvent) (event : HubEvent) :
    after capacity (events ++ [event]) = perform capacity (after capacity events) event :=
  List.foldl_append

end Lobby

/-! ### Visits -/

namespace Visit

variable {visit : Visit} {hub after : Hub} {room : String}

@[simp]
theorem note_id (event : HubEvent) : (visit.note hub event).id = visit.id := by
  unfold note
  split <;> first | rfl | (split <;> rfl)

private theorem staysIn_move (visit : Visit) (move : Move) (room : String) :
    (visit.move move).staysIn room =
      if move.room = room then !visit.ended && decide (move = .joined room)
      else visit.staysIn room := by
  unfold staysIn Visit.move
  by_cases about : move.room = room <;> simp [List.filter_append, about]

/-- The hub shows the visit: its socket is open until the visit is over, and in the rooms where the
visit stays. -/
structure Shown (visit : Visit) (hub : Hub) : Prop where
  closed : hub.isClosed visit.id = visit.ended
  open_iff : visit.id ∈ hub.peers ↔ visit.ended = false
  hasRoom : ∀ room, hub.HasRoom visit.id room ↔ visit.staysIn room = true

theorem Shown.of_spares (shown : visit.Shown hub) (spares : Hub.Spares visit.id hub after) :
    visit.Shown after where
  closed := spares.closed.trans shown.closed
  open_iff := spares.mem_peers.trans shown.open_iff
  hasRoom room := (spares.hasRoom room).trans (shown.hasRoom room)

/-- A visit whose socket is closed and off the hub is over. -/
theorem shown_ended (closed : after.isClosed visit.id = true) (notPeer : visit.id ∉ after.peers) :
    ({ visit with ended := true } : Visit).Shown after where
  closed := closed
  open_iff := iff_of_false notPeer (by simp)
  hasRoom room := iff_of_false (fun hasRoom => notPeer hasRoom.isPeer) (by simp [staysIn])

theorem Shown.not_peer (shown : visit.Shown hub) (closed : hub.isClosed visit.id = true) :
    visit.id ∉ hub.peers := by
  rw [shown.closed] at closed
  rw [shown.open_iff, closed]
  exact Bool.noConfusion

theorem Shown.join (shown : visit.Shown hub) (room : String) :
    (visit.note hub (.call (.join visit.id room))).Shown (hub.join visit.id room).2 := by
  simp only [note, true_and, Hub.isOk_join]
  split
  · next isPeer =>
    have lasting := shown.open_iff.mp isPeer
    refine ⟨(Hub.isClosed_join ..).trans shown.closed, Hub.mem_join.trans shown.open_iff, ?_⟩
    · intro other
      rw [move_id, Hub.hasRoom_join isPeer, staysIn_move, shown.hasRoom]
      by_cases same : room = other <;> simp [Move.room, same, lasting]
  · next notPeer =>
    rw [Hub.join_of_not_peer notPeer]
    exact shown

theorem Shown.leave (shown : visit.Shown hub) (room : String) :
    (visit.note hub (.call (.leave visit.id room))).Shown (hub.leave visit.id room).2 := by
  simp only [note, true_and, Hub.isOk_leave]
  split
  · next isPeer =>
    refine ⟨(Hub.isClosed_leave ..).trans shown.closed, Hub.mem_leave.trans shown.open_iff, ?_⟩
    · intro other
      rw [move_id, Hub.hasRoom_leave isPeer, staysIn_move, shown.hasRoom]
      by_cases same : room = other <;> simp [Move.room, same]
  · next notPeer =>
    rw [Hub.leave_of_not_peer notPeer]
    exact shown

/-- An event about another socket is nothing to the visit, and neither is one that queues. -/
theorem note_call_apart {call : SocketCall}
    (apart : call.socket ≠ visit.id ∨ call.queues = true) :
    visit.note hub (.call call) = visit := by
  have onOther : call.queues = false → call.socket ≠ visit.id :=
    fun settles => apart.resolve_right (Bool.eq_false_iff.mp settles)
  cases call with
  | join id room => exact if_neg fun itself => onOther rfl itself.1
  | leave id room => exact if_neg fun itself => onOther rfl itself.1
  | disconnect id => exact if_neg (onOther rfl)
  | _ => rfl

theorem Shown.call (shown : visit.Shown hub) (call : SocketCall) :
    (visit.note hub (.call call)).Shown (hub.call call) := by
  by_cases apart : call.socket ≠ visit.id ∨ call.queues = true
  · rw [note_call_apart apart]
    exact shown.of_spares (hub.spares_call apart)
  · rw [not_or, Decidable.not_not, Bool.not_eq_true] at apart
    obtain ⟨itself, settles⟩ := apart
    cases call with
    | join id room =>
      cases itself
      exact shown.join room
    | leave id room =>
      cases itself
      exact shown.leave room
    | disconnect id =>
      cases itself
      rw [note, if_pos rfl]
      exact shown_ended (by simp [Hub.call, Hub.isClosed_disconnect])
        (Hub.not_mem_disconnect shown.not_peer)
    | _ => cases settles

theorem Shown.release (shown : visit.Shown hub) (id : ConnectionId) :
    (visit.note hub (.release id)).Shown (hub.release id) := by
  rw [note]
  split
  · next itself =>
    subst itself
    have notPeer : visit.id ∉ (hub.release visit.id).peers :=
      fun isPeer => (Hub.mem_release.mp isPeer).1 rfl
    exact shown_ended (by simp [Hub.isClosed_release]) notPeer
  · next different => exact shown.of_spares (hub.spares_release different)

end Visit

/-! ### Reservations -/

/-- When a reservation that is held is spent, one less is held. -/
theorem count_held_set {reservations : List Reservation} {number : Nat} {spent : Reservation}
    (held : reservations[number]? = some .held) (isSpent : spent ≠ .held) :
    (reservations.set number spent).count .held = reservations.count .held - 1 := by
  obtain ⟨inside, isHeld⟩ := List.getElem?_eq_some_iff.mp held
  rw [List.count_set inside, isHeld]
  simp [isSpent]

/-! ### Runs -/

namespace Lobby

/-- What the hub holds is what was handed out and not given back, within the capacity, and every
visit is shown. -/
structure Sound (capacity : Nat) (lobby : Lobby) : Prop where
  reserved : lobby.hub.reserved = lobby.reservations.count .held
  fits : lobby.hub.occupied ≤ capacity
  consistent : lobby.hub.Consistent
  distinct : (lobby.visits.map Visit.id).Nodup
  shown : ∀ visit ∈ lobby.visits, visit.Shown lobby.hub
  known : ∀ id ∈ lobby.hub.peers, id ∈ lobby.visits.map Visit.id

variable {capacity : Nat} {lobby : Lobby}

private theorem sound_empty (capacity : Nat) : Sound capacity {} where
  reserved := rfl
  fits := Nat.zero_le _
  consistent := Hub.consistent_empty
  distinct := List.nodup_nil
  shown := by simp
  known := by simp

/-- Whoever holds a reservation has a slot reserved. -/
theorem Sound.reserved_pos (sound : Sound capacity lobby) {number : Nat}
    (held : lobby.reservations[number]? = some .held) : 0 < lobby.hub.reserved := by
  rw [sound.reserved, List.count_pos_iff]
  exact List.mem_of_getElem? held

theorem Sound.mem_peers (sound : Sound capacity lobby) {id : ConnectionId} :
    id ∈ lobby.hub.peers ↔ ∃ visit ∈ lobby.visits, visit.ended = false ∧ visit.id = id := by
  constructor
  · intro isPeer
    obtain ⟨visit, among, rfl⟩ := List.mem_map.mp (sound.known id isPeer)
    exact ⟨visit, among, (sound.shown visit among).open_iff.mp isPeer, rfl⟩
  · rintro ⟨visit, among, lasting, rfl⟩
    exact (sound.shown visit among).open_iff.mpr lasting

theorem Sound.mem_membersOf (sound : Sound capacity lobby) {room : String} {id : ConnectionId} :
    id ∈ lobby.hub.membersOf room ↔
      ∃ visit ∈ lobby.visits, visit.staysIn room = true ∧ visit.id = id := by
  rw [Hub.mem_membersOf, sound.consistent.paired]
  constructor
  · intro hasRoom
    obtain ⟨visit, among, rfl⟩ := List.mem_map.mp (sound.known id hasRoom.isPeer)
    exact ⟨visit, among, ((sound.shown visit among).hasRoom room).mp hasRoom, rfl⟩
  · rintro ⟨visit, among, stays, rfl⟩
    exact ((sound.shown visit among).hasRoom room).mpr stays

/-- Different ids that are those of some visits are as many as these visits. -/
theorem Sound.length_eq_countP (sound : Sound capacity lobby) {ids : List ConnectionId}
    {counts : Visit → Bool} (distinct : ids.Nodup)
    (same : ∀ id, id ∈ ids ↔ ∃ visit ∈ lobby.visits, counts visit = true ∧ visit.id = id) :
    ids.length = lobby.visits.countP counts := by
  have perm : ids.Perm ((lobby.visits.filter counts).map Visit.id) := by
    refine (List.perm_ext_iff_of_nodup distinct ?_).mpr ?_
    · exact sound.distinct.sublist (List.filter_sublist.map Visit.id)
    · intro id
      rw [same]
      simp [List.mem_map, List.mem_filter, and_assoc]
  rw [perm.length_eq, List.length_map, List.countP_eq_length_filter]

theorem Sound.reserve (sound : Sound capacity lobby) : Sound capacity (lobby.reserve capacity) := by
  unfold Lobby.reserve
  cases taken : lobby.hub.reserve? capacity with
  | none => exact sound
  | some hub =>
    have occupied := Hub.occupied_reserve? taken
    obtain ⟨free, rfl⟩ := Hub.reserve?_eq_some taken
    exact {
      reserved := by simp [sound.reserved]
      fits := occupied ▸ free
      consistent := sound.consistent.recount _
      distinct := sound.distinct
      shown := fun visit among => (sound.shown visit among).of_spares (Hub.spares_recount _ _ _)
      known := sound.known }

theorem Sound.dropReservation (sound : Sound capacity lobby) (number : Nat) :
    Sound capacity (lobby.dropReservation number) := by
  unfold Lobby.dropReservation
  split
  · next held =>
    exact {
      reserved := by
        rw [count_held_set held (by decide), ← sound.reserved]
        rfl
      fits := Nat.le_trans (Hub.occupied_dropReservation _) sound.fits
      consistent := sound.consistent.recount _
      distinct := sound.distinct
      shown := fun visit among => (sound.shown visit among).of_spares (Hub.spares_recount _ _ _)
      known := sound.known }
  · exact sound

theorem Sound.openSocket (sound : Sound capacity lobby) (number : Nat) {id : ConnectionId}
    (fresh : id ∉ lobby.visits.map Visit.id) : Sound capacity (lobby.openSocket number id) := by
  unfold Lobby.openSocket
  split
  · next held =>
    have notPeer : id ∉ lobby.hub.peers := fun isPeer => fresh (sound.known id isPeer)
    exact {
      reserved := by
        rw [count_held_set held (by decide), ← sound.reserved]
        rfl
      fits := Nat.le_trans (Hub.occupied_openSocket (sound.reserved_pos held) id) sound.fits
      consistent := sound.consistent.openSocket notPeer
      distinct := by
        rw [List.map_append, List.map_singleton, List.nodup_append]
        refine ⟨sound.distinct, List.pairwise_singleton _ _, ?_⟩
        rintro known isKnown _ (_ | ⟨_, ⟨⟩⟩) rfl
        exact fresh isKnown
      shown := by
        intro visit among
        rcases List.mem_append.mp among with isKnown | isNew
        · have different : id ≠ visit.id :=
            fun same => fresh (same ▸ List.mem_map_of_mem isKnown)
          exact (sound.shown visit isKnown).of_spares (Hub.spares_openSocket _ different)
        · cases List.mem_singleton.mp isNew
          have isPeer : id ∈ (lobby.hub.openSocket id).peers := Hub.mem_openSocket.mpr (Or.inl rfl)
          refine ⟨Hub.isClosed_openSocket _ id, iff_of_true isPeer rfl, ?_⟩
          intro room
          simp [Hub.HasRoom, Hub.openSocket, Visit.staysIn]
      known := by
        intro other isPeer
        rw [List.map_append, List.mem_append]
        rcases Hub.mem_openSocket.mp isPeer with rfl | isPeer
        · exact Or.inr (List.mem_singleton_self _)
        · exact Or.inl (sound.known other isPeer) }
  · exact sound

/-- An event that opens no socket and touches no reservation, if the visits are shown after it. -/
theorem Sound.proceed (sound : Sound capacity lobby) {event : HubEvent} {after : Hub}
    (follows : Hub.Follows lobby.hub after)
    (shown : ∀ visit ∈ lobby.visits, (visit.note lobby.hub event).Shown after) :
    Sound capacity (lobby.proceed event after) := by
  have sameIds : (lobby.proceed event after).visits.map Visit.id = lobby.visits.map Visit.id := by
    simp [Lobby.proceed]
  exact {
    reserved := follows.reserved.trans sound.reserved
    fits := Nat.le_trans follows.occupied_le sound.fits
    consistent := follows.consistent sound.consistent
    distinct := sameIds ▸ sound.distinct
    shown := List.forall_mem_map.mpr shown
    known := fun id isPeer => sameIds ▸ sound.known id (follows.peers isPeer) }

theorem Sound.perform (sound : Sound capacity lobby) {event : HubEvent}
    (fresh : ∀ id, event.opens? = some id → id ∉ lobby.visits.map Visit.id) :
    Sound capacity (lobby.perform capacity event) := by
  cases event with
  | reserve => exact sound.reserve
  | dropReservation number => exact sound.dropReservation number
  | openSocket number id => exact sound.openSocket number (fresh id rfl)
  | call call =>
    exact sound.proceed (Hub.follows_call _ call) fun visit among =>
      (sound.shown visit among).call call
  | release id =>
    exact sound.proceed (Hub.follows_release _ id) fun visit among =>
      (sound.shown visit among).release id

/-- Only sockets that were to be opened are visits. -/
theorem mem_visits_perform {event : HubEvent} {id : ConnectionId}
    (isVisit : id ∈ (lobby.perform capacity event).visits.map Visit.id) :
    id ∈ lobby.visits.map Visit.id ∨ event.opens? = some id := by
  cases event with
  | reserve =>
    simp only [perform, Lobby.reserve] at isVisit
    split at isVisit <;> exact Or.inl isVisit
  | dropReservation number =>
    simp only [perform, Lobby.dropReservation] at isVisit
    split at isVisit <;> exact Or.inl isVisit
  | openSocket number opened =>
    simp only [perform, Lobby.openSocket] at isVisit
    split at isVisit
    · simpa [HubEvent.opens?, eq_comm] using isVisit
    · exact Or.inl isVisit
  | call call => exact Or.inl (by simpa [perform, Lobby.proceed] using isVisit)
  | release released => exact Or.inl (by simpa [perform, Lobby.proceed] using isVisit)

theorem opened_of_visit {events : List HubEvent} {id : ConnectionId}
    (isVisit : id ∈ (after capacity events).visits.map Visit.id) :
    id ∈ events.filterMap HubEvent.opens? := by
  induction events using List.reverseRecOn with
  | nil => cases isVisit
  | append_singleton events event inductionHypothesis =>
    rw [after_concat] at isVisit
    rw [List.filterMap_append, List.mem_append]
    rcases mem_visits_perform isVisit with before | opened
    · exact Or.inl (inductionHypothesis before)
    · exact Or.inr (List.mem_filterMap.mpr ⟨event, List.mem_singleton_self event, opened⟩)

/-- Whatever happens to a hub, it holds what was handed out. -/
theorem sound_after (capacity : Nat) {events : List HubEvent}
    (distinct : (events.filterMap HubEvent.opens?).Nodup) :
    Sound capacity (after capacity events) := by
  induction events using List.reverseRecOn with
  | nil => exact sound_empty capacity
  | append_singleton events event inductionHypothesis =>
    rw [List.filterMap_append, List.nodup_append] at distinct
    obtain ⟨distinctBefore, -, apart⟩ := distinct
    rw [after_concat]
    refine (inductionHypothesis distinctBefore).perform ?_
    intro id opened isVisit
    have isNew : id ∈ [event].filterMap HubEvent.opens? :=
      List.mem_filterMap.mpr ⟨event, List.mem_singleton_self event, opened⟩
    exact apart id (opened_of_visit isVisit) id isNew rfl

end Lobby

end SocketGateway
