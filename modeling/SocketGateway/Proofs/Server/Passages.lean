import SocketGateway.Proofs.Hub.Spared
import SocketGateway.Proofs.Registry.Consistency

/-!
Contract: what one atomic event makes of the registry and the hub of a server.

Owns:
- the passages: rows of calls on sockets, notes about clients, a registration or a deregistration
  with the socket that it closes, and sockets that are opened or released;
- what every passage keeps, and what only the connection that is registered or the socket that is
  opened may change;
- that a connection which ceases to belong to a client is closed at once, and that the hub stays as
  it is for all others.

Does not own: which events there are.
-/

namespace SocketGateway

/-! ### Sockets that are closed -/

namespace Hub

/-- No socket that is closed is on the hub. -/
def Settled (hub : Hub) : Prop := ∀ id, hub.isClosed id = true → id ∉ hub.peers

theorem settled_empty : Settled {} := by simp [Settled]

variable {hub before after : Hub} {id : ConnectionId}

/-- Where a socket is spared, it stays off the hub once it is closed. -/
theorem Settled.of_spares (settled : before.Settled) (spares : Spares id before after)
    (closed : after.isClosed id = true) : id ∉ after.peers := by
  rw [spares.mem_peers]
  exact settled id (spares.closed.symm.trans closed)

theorem Settled.call (settled : hub.Settled) (call : SocketCall) : (hub.call call).Settled := by
  intro id closed
  by_cases apart : call.socket ≠ id ∨ call.queues = true
  · exact settled.of_spares (hub.spares_call apart) closed
  · rw [not_or, Decidable.not_not, Bool.not_eq_true] at apart
    obtain ⟨rfl, settles⟩ := apart
    cases call with
    | join id room =>
      rw [Hub.call, isClosed_join] at closed
      exact fun isPeer => settled id closed (mem_join.mp isPeer)
    | leave id room =>
      rw [Hub.call, isClosed_leave] at closed
      exact fun isPeer => settled id closed (mem_leave.mp isPeer)
    | disconnect id => exact not_mem_disconnect (settled id)
    | _ => cases settles

theorem Settled.release (settled : hub.Settled) (id : ConnectionId) : (hub.release id).Settled := by
  intro other closed
  by_cases itself : id = other
  · exact fun isPeer => (mem_release.mp isPeer).1 itself
  · exact settled.of_spares (hub.spares_release itself) closed

theorem Settled.openSocket (settled : hub.Settled) (id : ConnectionId) :
    (hub.openSocket id).Settled := by
  intro other closed
  by_cases itself : id = other
  · subst itself
    rw [isClosed_openSocket] at closed
    cases closed
  · exact settled.of_spares (hub.spares_openSocket itself) closed

/-- What every call keeps, a row of calls keeps. -/
theorem Reaches.keeps {mayClose : Bool} {holds : Hub → Prop}
    (reaches : Reaches mayClose before after)
    (keeps : ∀ {hub : Hub}, holds hub → ∀ call, holds (hub.call call)) (start : holds before) :
    holds after := by
  obtain ⟨calls, -, rfl⟩ := reaches
  induction calls using List.reverseRecOn with
  | nil => exact start
  | append_singleton calls call inductionHypothesis =>
    rw [List.foldl_append]
    exact keeps inductionHypothesis call

theorem Reaches.settled {mayClose : Bool} (reaches : Reaches mayClose before after)
    (settled : before.Settled) : after.Settled :=
  reaches.keeps Settled.call settled

theorem Reaches.closed {mayClose : Bool} (reaches : Reaches mayClose before after)
    (closed : before.isClosed id = true) : after.isClosed id = true := by
  apply reaches.keeps
  · exact closed_call
  · exact closed

end Hub

/-! ### Passages -/

/-- All that one atomic event may make of a registry and a hub. `enters` is the connection that it
may give to a client, and `opens` the socket that it may open. -/
inductive Passage (enters opens : Option ConnectionId) :
    ClientRegistry × Hub → ClientRegistry × Hub → Prop where
  | calls {clients : ClientRegistry} {hub after : Hub} (reaches : hub.Reaches true after) :
      Passage enters opens (clients, hub) (clients, after)
  /-- Something is noted about clients, who stay on their connections. -/
  | note {clients after : ClientRegistry} {hub : Hub}
      (consistent : clients.Consistent → after.Consistent)
      (owners : after.owners = clients.owners) :
      Passage enters opens (clients, hub) (after, hub)
  | register {clients : ClientRegistry} {hub : Hub} (id : ClientId) (connection : Connection)
      (option : String) (now : Int64) (entering : enters = some connection.id) :
      Passage enters opens (clients, hub)
        ((clients.register id connection option now).registry,
          hub.disconnectAny (clients.register id connection option now).evicted)
  | deregister {clients : ClientRegistry} {hub : Hub} (connection : Connection) :
      Passage enters opens (clients, hub)
        ((clients.deregister connection).registry,
          hub.disconnectAny (clients.deregister connection).closed)
  | openSocket {clients : ClientRegistry} {hub : Hub} {id : ConnectionId}
      (opening : opens = some id) :
      Passage enters opens (clients, hub) (clients, hub.openSocket id)
  | release {clients : ClientRegistry} {hub : Hub} (id : ConnectionId) :
      Passage enters opens (clients, hub) (clients, hub.release id)
  /-- Slots are reserved or given back. -/
  | recount {clients : ClientRegistry} {hub : Hub} (reserved : Nat) :
      Passage enters opens (clients, hub) (clients, { hub with reserved := reserved })

namespace Passage

variable {enters opens : Option ConnectionId} {before after : ClientRegistry × Hub}
  {key : ConnectionId}

theorem refl (enters opens : Option ConnectionId) (state : ClientRegistry × Hub) :
    Passage enters opens state state :=
  .calls (Hub.Reaches.refl true state.2)

theorem consistent (passage : Passage enters opens before after)
    (consistent : before.1.Consistent) : after.1.Consistent := by
  cases passage with
  | note keeps => exact keeps consistent
  | register id connection option now => exact consistent.register id connection option now
  | deregister connection => exact consistent.deregister connection
  | _ => exact consistent

theorem rooms (passage : Passage enters opens before after)
    (fresh : ∀ id, opens = some id → id ∉ before.2.peers) (consistent : before.2.Consistent) :
    after.2.Consistent := by
  cases passage with
  | calls reaches => exact reaches.follows.consistent consistent
  | note => exact consistent
  | register | deregister => exact (Hub.follows_disconnectAny _ _).consistent consistent
  | openSocket opening => exact consistent.openSocket (fresh _ opening)
  | release id => exact (Hub.follows_release _ id).consistent consistent
  | recount reserved => exact consistent.recount reserved

theorem settled (passage : Passage enters opens before after) (settled : before.2.Settled) :
    after.2.Settled := by
  cases passage with
  | calls reaches => exact reaches.settled settled
  | note => exact settled
  | register | deregister => exact (Hub.reaches_disconnectAny _ _).settled settled
  | openSocket opening => exact settled.openSocket _
  | release id => exact settled.release id
  | recount reserved => exact settled

/-- Only the socket that is opened comes to the hub. -/
theorem mem_peers (passage : Passage enters opens before after) (isPeer : key ∈ after.2.peers) :
    opens = some key ∨ key ∈ before.2.peers := by
  cases passage with
  | calls reaches => exact Or.inr (reaches.follows.peers isPeer)
  | note => exact Or.inr isPeer
  | register | deregister => exact Or.inr ((Hub.follows_disconnectAny _ _).peers isPeer)
  | openSocket opening =>
    rcases Hub.mem_openSocket.mp isPeer with rfl | before
    · exact Or.inl opening
    · exact Or.inr before
  | release id => exact Or.inr ((Hub.follows_release _ id).peers isPeer)
  | recount reserved => exact Or.inr isPeer

/-- Only the connection that is registered comes to belong to a client. -/
theorem lookup (passage : Passage enters opens before after) (consistent : before.1.Consistent)
    (belongs : (after.1.lookup key).isSome) :
    enters = some key ∨ (before.1.lookup key).isSome := by
  cases passage with
  | note keeps owners =>
    rw [ClientRegistry.lookup, owners] at belongs
    exact Or.inr belongs
  | register id connection option now entering =>
    rcases ClientRegistry.lookup_register consistent id option now belongs with itself | before
    · exact Or.inl (itself ▸ entering)
    · exact Or.inr before
  | deregister connection =>
    dsimp only at belongs
    rw [ClientRegistry.lookup_deregister consistent] at belongs
    split at belongs
    · cases belongs
    · exact Or.inr belongs
  | _ => exact Or.inr belongs

/-- A socket that is closed stays closed, unless it is opened. -/
theorem closed (passage : Passage enters opens before after) (notOpened : opens ≠ some key)
    (closed : before.2.isClosed key = true) : after.2.isClosed key = true := by
  cases passage with
  | calls reaches => exact reaches.closed closed
  | note => exact closed
  | register | deregister => exact (Hub.reaches_disconnectAny _ _).closed closed
  | @openSocket clients hub id opening =>
    have different : id ≠ key := fun same => notOpened (same ▸ opening)
    exact (hub.spares_openSocket different).closed.trans closed
  | @release clients hub id =>
    show (hub.release id).isClosed key = true
    rw [Hub.isClosed_release, closed, Bool.true_or]
  | recount reserved => exact closed

/-- A connection that ceases to belong to a client is closed, and no more happens to the hub. -/
theorem displaces (passage : Passage enters opens before after) (consistent : before.1.Consistent)
    (belonged : (before.1.lookup key).isSome) (lost : after.1.lookup key = none) :
    after.2 = before.2.disconnect key := by
  have notLost : after.1.owners = before.1.owners → after.2 = before.2.disconnect key := by
    intro owners
    rw [ClientRegistry.lookup, owners, ← ClientRegistry.lookup] at lost
    rw [lost] at belonged
    cases belonged
  cases passage with
  | register id connection option now =>
    obtain ⟨evicted, isEvicted, rfl⟩ := ClientRegistry.evicted_of_lost consistent belonged lost
    dsimp only
    rw [isEvicted, Hub.disconnectAny]
  | deregister connection =>
    obtain ⟨closed, isClosed, rfl⟩ := ClientRegistry.closed_of_lost consistent belonged lost
    dsimp only
    rw [isClosed, Hub.disconnectAny]
  | note keeps owners => exact notLost owners
  | _ => exact notLost rfl

end Passage

end SocketGateway
