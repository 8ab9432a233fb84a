import SocketGateway.Proofs.Hub.Lobby

/-!
Contract: who is in which room of a hub.

Owns:
- that the rooms of the sockets and the members of the rooms are one relation, between open sockets
  and rooms that somebody is in;
- that a socket is in the rooms that it joined last rather than left, in none once it is closed, and
  that nobody else puts it into a room or takes it out of one.

Does not own: who asks for rooms, or what is sent to them.
-/

namespace SocketGateway

namespace Hub

variable {hub : Hub} {id : ConnectionId} {room : String}

theorem mem_roomsOf : room ∈ hub.roomsOf id ↔ hub.HasRoom id room := by
  unfold roomsOf HasRoom
  cases hub.peers[id]? <;> simp

/-- The rooms of a socket are listed in order, each of them once. -/
theorem sorted_roomsOf (hub : Hub) (id : ConnectionId) :
    (hub.roomsOf id).Pairwise (· < ·) := by
  unfold roomsOf
  cases hub.peers[id]? with
  | none => exact List.Pairwise.nil
  | some rooms =>
    refine Std.TreeSet.ordered_toList.imp ?_
    intro left right before
    have less : compareOfLessAndEq left right = .lt := before
    exact compareOfLessAndEq_eq_lt.mp less

theorem roomsOf_of_not_peer (notPeer : id ∉ hub.peers) : hub.roomsOf id = [] := by
  rw [roomsOf, Std.TreeMap.getElem?_eq_none notPeer]

theorem nodup_membersOf (hub : Hub) (room : String) : (hub.membersOf room).Nodup := by
  unfold membersOf
  cases hub.members[room]? with
  | none => exact List.nodup_nil
  | some present =>
    refine Std.TreeSet.distinct_toList.imp ?_
    intro left right apart same
    exact apart (Std.LawfulEqCmp.compare_eq_iff_eq.mpr same)

/-- A room that is kept has members. -/
theorem Consistent.membersOf_ne_nil (consistent : hub.Consistent) (isKept : room ∈ hub.members) :
    hub.membersOf room ≠ [] := by
  rw [Std.TreeMap.mem_iff_isSome_getElem?, Option.isSome_iff_exists] at isKept
  obtain ⟨present, found⟩ := isKept
  obtain ⟨id, isMember⟩ := consistent.peopled room present found
  exact List.ne_nil_of_mem (mem_membersOf.mpr ⟨present, found, isMember⟩)

end Hub

namespace Lobby

/-- An event leaves all sockets alone but the one that it is about. -/
theorem spares_perform (capacity : Nat) (lobby : Lobby) {event : HubEvent} {other : ConnectionId}
    (apart : event.socket? ≠ some other) :
    Hub.Spares other lobby.hub (lobby.perform capacity event).hub := by
  have different : ∀ {id}, event.socket? = some id → id ≠ other :=
    fun about same => apart (same ▸ about)
  cases event with
  | reserve =>
    rw [perform, Lobby.reserve]
    split
    · exact Hub.Spares.refl other lobby.hub
    · next taken =>
      obtain ⟨-, rfl⟩ := Hub.reserve?_eq_some taken
      exact Hub.spares_recount _ other _
  | dropReservation number =>
    rw [perform, Lobby.dropReservation]
    split
    · exact Hub.spares_recount _ other _
    · exact Hub.Spares.refl other lobby.hub
  | openSocket number id =>
    rw [perform, Lobby.openSocket]
    split
    · exact Hub.spares_openSocket _ (different rfl)
    · exact Hub.Spares.refl other lobby.hub
  | call call => exact Hub.spares_call _ (Or.inl (different rfl))
  | release id => exact Hub.spares_release _ (different rfl)

/-- Whatever happens to a hub, if no id is given to two sockets: the rooms of the sockets and the
members of the rooms are the same pairs, all of open sockets, and no room is kept for nobody. A room
has as many members as there are visits that stay in it, and each visit is listed the rooms where
it stays, in order. Once it is over, it is in no room, and neither joins nor leaves one. Whatever
happens next to somebody else changes nothing about that. -/
theorem membership_one_relation (capacity : Nat) (events : List HubEvent)
    (distinct : (events.filterMap HubEvent.opens?).Nodup) :
    let lobby := after capacity events
    (∀ room id, room ∈ lobby.hub.roomsOf id ↔ id ∈ lobby.hub.membersOf room) ∧
    (∀ room, ∀ id ∈ lobby.hub.membersOf room, id ∈ lobby.hub.peers) ∧
    (∀ room ∈ lobby.hub.members, lobby.hub.membersOf room ≠ []) ∧
    (∀ room, (lobby.hub.membersOf room).length = lobby.visits.countP (·.staysIn room)) ∧
    (∀ visit ∈ lobby.visits,
      (lobby.hub.roomsOf visit.id).Pairwise (· < ·) ∧
      (∀ room, room ∈ lobby.hub.roomsOf visit.id ↔ visit.staysIn room = true) ∧
      (visit.ended = true → lobby.hub.roomsOf visit.id = [] ∧ ∀ room,
        lobby.hub.join visit.id room = (.error (.closed visit.id.text), lobby.hub) ∧
        lobby.hub.leave visit.id room = (.error (.closed visit.id.text), lobby.hub))) ∧
    ∀ (event : HubEvent) (other : ConnectionId), event.socket? ≠ some other →
      let next := lobby.perform capacity event
      next.hub.roomsOf other = lobby.hub.roomsOf other ∧
      ∀ room, other ∈ next.hub.membersOf room ↔ other ∈ lobby.hub.membersOf room := by
  intro lobby
  have sound : Sound capacity lobby := sound_after capacity distinct
  refine ⟨?_, ?_, fun room isKept => sound.consistent.membersOf_ne_nil isKept, ?_, ?_, ?_⟩
  · intro room id
    rw [Hub.mem_roomsOf, Hub.mem_membersOf, sound.consistent.paired]
  · intro room id isMember
    rw [Hub.mem_membersOf, sound.consistent.paired] at isMember
    exact isMember.isPeer
  · intro room
    exact sound.length_eq_countP (Hub.nodup_membersOf _ room) fun id => sound.mem_membersOf
  · intro visit among
    have shown := sound.shown visit among
    refine ⟨Hub.sorted_roomsOf _ _, fun room => Hub.mem_roomsOf.trans (shown.hasRoom room), ?_⟩
    intro ended
    have notPeer := shown.not_peer (shown.closed.trans ended)
    exact ⟨Hub.roomsOf_of_not_peer notPeer, fun room =>
      ⟨Hub.join_of_not_peer notPeer room, Hub.leave_of_not_peer notPeer room⟩⟩
  · intro event other apart
    have spares := spares_perform capacity lobby apart
    exact ⟨spares.roomsOf, fun room => spares.mem_membersOf⟩

/-- Two sockets meet in a room. One of them goes to another room and back and leaves the first one
twice, the other one is disconnected and tries to join again. -/
def meeting : List HubEvent :=
  [.reserve, .reserve, .openSocket 1 ⟨"a"⟩, .openSocket 0 ⟨"b"⟩, .call (.join ⟨"a"⟩ "r"),
    .call (.join ⟨"b"⟩ "r"), .call (.join ⟨"a"⟩ "q"), .call (.leave ⟨"a"⟩ "q"),
    .call (.join ⟨"a"⟩ "q"), .call (.join ⟨"a"⟩ "p"), .call (.leave ⟨"a"⟩ "r"),
    .call (.leave ⟨"a"⟩ "r"), .call (.disconnect ⟨"b"⟩), .call (.join ⟨"b"⟩ "r"), .release ⟨"b"⟩]

theorem meeting_over :
    (meeting.filterMap HubEvent.opens?).Nodup ∧
      (after 2 meeting).hub.roomsOf ⟨"a"⟩ = ["p", "q"] ∧ (after 2 meeting).hub.roomsOf ⟨"b"⟩ = [] ∧
      (after 2 meeting).hub.membersOf "r" = [] ∧ ((after 2 meeting).hub.membersOf "q").length = 1 ∧
      ∀ room, (after 2 meeting).hub.join ⟨"b"⟩ room =
        (.error (.closed "b"), (after 2 meeting).hub) := by
  have distinct : (meeting.filterMap HubEvent.opens?).Nodup := by decide
  have visits : (after 2 meeting).visits =
      [{ id := ⟨"a"⟩
         moves := [.joined "r", .joined "q", .left "q", .joined "q", .joined "p", .left "r",
           .left "r"] },
        { id := ⟨"b"⟩, ended := true, moves := [.joined "r"] }] := by decide +kernel
  obtain ⟨-, -, -, sizes, seen, -⟩ := membership_one_relation 2 meeting distinct
  rw [visits] at sizes seen
  obtain ⟨-, -, ended⟩ := seen { id := ⟨"b"⟩, ended := true, moves := [.joined "r"] } (by simp)
  obtain ⟨noRooms, turnedAway⟩ := ended rfl
  refine ⟨distinct, by decide +kernel, noRooms, ?_, ?_, fun room => (turnedAway room).1⟩
  · rw [← List.length_eq_zero_iff, sizes]
    decide
  · rw [sizes]
    decide

end Lobby

end SocketGateway
