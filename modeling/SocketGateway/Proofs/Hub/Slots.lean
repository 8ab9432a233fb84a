import SocketGateway.Proofs.Hub.Lobby

/-!
Contract: how the slots of a hub are accounted for.

Owns:
- that a hub counts as reserved what was handed out and is still held, and as open what was opened
  and is not over;
- that no slot is given back that was not taken, and that the capacity is never exceeded.

Does not own: who reserves, or how often.
-/

namespace SocketGateway

namespace Lobby

theorem Sound.connectionCount {capacity : Nat} {lobby : Lobby} (sound : Sound capacity lobby) :
    lobby.hub.connectionCount = lobby.visits.countP (fun visit => !visit.ended) := by
  rw [Hub.connectionCount, ← Std.TreeMap.length_keys]
  refine sound.length_eq_countP Std.TreeMap.nodup_keys ?_
  intro id
  rw [Std.TreeMap.mem_keys, sound.mem_peers]
  simp only [Bool.not_eq_true']

/-- Whatever happens to a hub that is asked for slots up to one capacity, if no id is given to two
sockets: the reservations that it counts are those still held, and its connections are the sockets
opened and not over. To drop a
reservation that is held, or to open a socket in it, takes one from a count that is not zero. A slot
is reserved exactly while one is free, and no more slots than the capacity are ever taken. -/
theorem slots_accounted (capacity : Nat) (events : List HubEvent)
    (distinct : (events.filterMap HubEvent.opens?).Nodup) :
    let lobby := after capacity events
    lobby.hub.reserved = lobby.reservations.count .held ∧
    lobby.hub.connectionCount = lobby.visits.countP (fun visit => !visit.ended) ∧
    (∀ number, lobby.reservations[number]? = some .held →
      (lobby.perform capacity (.dropReservation number)).hub.reserved + 1 = lobby.hub.reserved ∧
      ∀ id, (lobby.perform capacity (.openSocket number id)).hub.reserved + 1 =
        lobby.hub.reserved) ∧
    ((lobby.hub.reserve? capacity).isSome ↔ lobby.hub.occupied < capacity) ∧
    lobby.hub.occupied ≤ capacity := by
  intro lobby
  have sound : Sound capacity lobby := sound_after capacity distinct
  refine ⟨sound.reserved, sound.connectionCount, ?_, Hub.isSome_reserve?, sound.fits⟩
  intro number held
  have positive := sound.reserved_pos held
  constructor
  · rw [perform, Lobby.dropReservation, if_pos held]
    exact Nat.sub_add_cancel positive
  · intro id
    rw [perform, Lobby.openSocket, if_pos held]
    exact Nat.sub_add_cancel positive

/-- Two slots are reserved, a third is refused. One reservation is dropped, and again; the other is
opened, dropped, and the socket in it is disconnected and released. -/
def comeAndGo : List HubEvent :=
  [.reserve, .reserve, .reserve, .dropReservation 0, .dropReservation 0, .openSocket 1 ⟨"a"⟩,
    .dropReservation 1, .reserve, .call (.disconnect ⟨"a"⟩), .release ⟨"a"⟩, .reserve]

theorem comeAndGo_accounted :
    (comeAndGo.filterMap HubEvent.opens?).Nodup ∧
      (after 2 comeAndGo).reservations = [.dropped, .opened, .held, .held] ∧
      (after 2 comeAndGo).hub.reserved = 2 ∧ (after 2 comeAndGo).hub.connectionCount = 0 ∧
      ((after 2 comeAndGo).hub.reserve? 2).isSome = false ∧
      (after 2 comeAndGo).hub.occupied ≤ 2 := by
  have distinct : (comeAndGo.filterMap HubEvent.opens?).Nodup := by decide
  have handedOut : (after 2 comeAndGo).reservations = [.dropped, .opened, .held, .held] := by
    decide +kernel
  have visits : (after 2 comeAndGo).visits = [{ id := ⟨"a"⟩, ended := true }] := by decide +kernel
  obtain ⟨reserved, connections, -, free, fits⟩ := slots_accounted 2 comeAndGo distinct
  rw [handedOut] at reserved
  rw [visits] at connections
  refine ⟨distinct, handedOut, reserved, connections, ?_, fits⟩
  rw [Bool.eq_false_iff, ne_eq, free, Hub.occupied, reserved]
  exact Nat.not_lt.mpr (Nat.le_add_left 2 _)

end Lobby

end SocketGateway
