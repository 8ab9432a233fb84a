import Mathlib.Data.List.Nodup
import SocketGateway.Proofs.Session.Quiescence

/-!
Contract: how many clients a server may have.

Owns:
- that the sockets that are open, together with the reserved slots, never exceed the limit;
- that every client that was not refused has an open socket, and so the limit bounds their number;
- a server that has more clients than slots, as one of them was refused and has not left yet.

Hooks and handlers close no sockets here: a handler that hangs up gives a slot back while its client
is still online.

Does not own: how long a refused client stays.
-/

namespace SocketGateway

/-- Clients on some connections are no more than these. -/
theorem ClientRegistry.Consistent.length_le {registry : ClientRegistry}
    (consistent : registry.Consistent) {ids : List ClientId} (different : ids.Nodup)
    {keys : List ConnectionId}
    (placed : ∀ id ∈ ids, ∃ key ∈ keys, registry.IsOn id key) : ids.length ≤ keys.length := by
  let keyOf (id : ClientId) : ConnectionId :=
    (registry.clients[id]?.bind Client.connectionId?).getD ⟨""⟩
  have onOwn : ∀ {id key}, registry.IsOn id key → keyOf id = key := by
    intro id key on
    rw [IsOn] at on
    simp only [keyOf, on, Option.getD_some]
  have distinctKeys : (ids.map keyOf).Nodup := by
    refine List.Nodup.map_on ?_ different
    intro left isLeft right isRight same
    obtain ⟨leftKey, -, onLeft⟩ := placed left isLeft
    obtain ⟨rightKey, -, onRight⟩ := placed right isRight
    rw [onOwn onLeft, onOwn onRight] at same
    exact consistent.owner_unique onLeft (same ▸ onRight)
  -- different clients have different connections, all of them among the keys
  have among : ids.map keyOf ⊆ keys := by
    intro key isKey
    obtain ⟨id, isId, rfl⟩ := List.mem_map.mp isKey
    obtain ⟨key, isAmong, on⟩ := placed id isId
    rw [onOwn on]
    exact isAmong
  have length := (distinctKeys.subperm among).length_le
  rwa [List.length_map] at length

namespace Site

variable {App : Type}

/-- The clients that were refused and have not left yet. -/
def lingering (site : Site App) (traffic : Traffic App) : List ClientId :=
  traffic.courses.zipIdx.filterMap fun entry =>
    if entry.1.phase.standing = .dismissed then
      traffic.server.gateway.clients.lookup (site.connections entry.2)
    else none

/-- Every session that is entering, and every client that is online, has an open socket in one of
the slots. -/
structure Roomy (site : Site App) (traffic : Traffic App) : Prop where
  fits : traffic.server.hub.occupied ≤ site.config.maxConnections
  seated : ∀ (index : Nat) (course : Course), traffic.courses[index]? = some course →
    (course.phase.standing = .entering ∨
      course.phase.standing = .online ∧
        (traffic.server.gateway.clients.lookup (site.connections index)).isSome) →
    site.connections index ∈ traffic.server.hub.peers

section

variable {site : Site App} {traffic next : Traffic App}

private theorem roomy_start (site : Site App) : site.Roomy site.start where
  fits := Nat.zero_le _
  seated := by
    intro index course isAt
    simp [start] at isAt

theorem Roomy.happens (roomy : site.Roomy traffic) (orderly : site.Orderly traffic)
    (distinct : Function.Injective site.connections)
    (happens : Happens false site traffic next) : site.Roomy next := by
  cases happens with
  | request request =>
    refine ⟨roomy.fits, ?_⟩
    intro index course isAt used
    rw [List.getElem?_append] at isAt
    split at isAt
    · exact roomy.seated index course isAt used
    · have isNew := List.mem_singleton.mp (List.mem_of_getElem? isAt)
      subst isNew
      rcases used with used | ⟨used, -⟩ <;> cases used
  | @turn index course moved server isAt turn settings =>
    have seat := roomy.seated index course isAt
    refine ⟨turn.occupied_le (orderly.held isAt) roomy.fits, ?_⟩
    intro other found isFound used
    by_cases itself : index = other
    · subst itself
      have inside : index < traffic.courses.length := (List.getElem?_eq_some_iff.mp isAt).1
      rw [List.getElem?_set_self inside] at isFound
      cases isFound
      exact turn.seated orderly.consistent seat used
    · have different : site.connections index ≠ site.connections other :=
        fun same => itself (distinct same)
      rw [List.getElem?_set_ne itself] at isFound
      have usedBefore : found.phase.standing = .entering ∨
          found.phase.standing = .online ∧
            (traffic.server.gateway.clients.lookup (site.connections other)).isSome := by
        refine used.imp_right fun online => ⟨online.1, ?_⟩
        exact (turn.lookup orderly.consistent online.2).resolve_left different
      have isPeer := roomy.seated other found isFound usedBefore
      rcases turn.keeps_peers orderly.consistent different isPeer with stays | ⟨belonged, evicted⟩
      · exact stays
      · -- only a socket with a client is evicted, and it has none afterwards
        have mayBind := orderly.bound.may_of_held distinct isFound belonged
        rcases used with entering | ⟨-, belongs⟩
        · rw [entering] at mayBind
          cases mayBind
        · dsimp only at belongs evicted
          rw [evicted] at belongs
          cases belongs
  | aside consistent owners reaches settings =>
    constructor
    · have size := reaches.follows.size
      have reserved := reaches.follows.reserved
      have fits := roomy.fits
      unfold Hub.occupied at *
      dsimp only
      omega
    · intro index course isAt used
      refine reaches.mem_peers.mpr (roomy.seated index course isAt ?_)
      rw [ClientRegistry.lookup, owners] at used
      exact used

theorem roomy_after (confined : site.Confined false)
    (distinct : Function.Injective site.connections) (events : List TrafficEvent)
    (allowed : Allows false events) : site.Roomy (site.after events) := by
  induction events using List.reverseRecOn with
  | nil => exact site.roomy_start
  | append_singleton events event inductionHypothesis =>
    have earlier : Allows false events := fun call among =>
      allowed call (List.mem_append_left [event] among)
    have orderly := orderly_after confined distinct events earlier
    rw [after_concat]
    refine (inductionHypothesis earlier).happens orderly distinct
      (perform_happens confined orderly.settings orderly.consistent event ?_)
    rintro call rfl
    exact allowed call (by simp)

private theorem mem_lingering {index : Nat} {course : Course} {id : ClientId}
    (isAt : traffic.courses[index]? = some course) (dismissed : course.phase.standing = .dismissed)
    (belongs : traffic.server.gateway.clients.lookup (site.connections index) = some id) :
    id ∈ site.lingering traffic := by
  refine List.mem_filterMap.mpr ⟨(course, index), List.mem_zipIdx_iff_getElem?.mpr isAt, ?_⟩
  rw [if_pos dismissed, belongs]

/-- A client that does not linger has an open socket. -/
theorem Roomy.placed (roomy : site.Roomy traffic) (orderly : site.Orderly traffic) {id : ClientId}
    (online : id ∈ traffic.server.gateway.clients.clientIds)
    (stays : id ∉ site.lingering traffic) :
    ∃ key ∈ traffic.server.hub.peers.keys, traffic.server.gateway.clients.IsOn id key := by
  obtain ⟨key, on, belongs⟩ := orderly.consistent.isOn_of_mem (Std.TreeMap.mem_keys.mp online)
  have isSome : (traffic.server.gateway.clients.lookup key).isSome := by
    rw [belongs]
    rfl
  refine ⟨key, Std.TreeMap.mem_keys.mpr ?_, on⟩
  obtain ⟨index, course, isAt, sameKey, mayBind⟩ := orderly.bound key isSome
  rw [← sameKey] at belongs isSome ⊢
  cases standing : course.phase.standing with
  | online => exact roomy.seated index course isAt (Or.inr ⟨standing, isSome⟩)
  | dismissed => exact absurd (mem_lingering isAt standing belongs) stays
  | outside | waiting | entering | closing =>
    rw [standing] at mayBind
    cases mayBind

/-- The clients that were not refused are no more than the limit. -/
theorem Roomy.bounded (roomy : site.Roomy traffic) (orderly : site.Orderly traffic) :
    (traffic.server.gateway.clients.clientIds.filter
      (fun id => id ∉ site.lingering traffic)).length ≤ site.config.maxConnections := by
  have different : (traffic.server.gateway.clients.clientIds.filter
      (fun id => id ∉ site.lingering traffic)).Nodup := Std.TreeMap.nodup_keys.filter _
  have placed : ∀ id ∈ traffic.server.gateway.clients.clientIds.filter
      (fun id => id ∉ site.lingering traffic),
      ∃ key ∈ traffic.server.hub.peers.keys, traffic.server.gateway.clients.IsOn id key := by
    intro id among
    rw [List.mem_filter, decide_eq_true_eq] at among
    exact roomy.placed orderly among.1 among.2
  calc
    _ ≤ traffic.server.hub.peers.keys.length := orderly.consistent.length_le different placed
    _ = traffic.server.hub.peers.size := Std.TreeMap.length_keys
    _ ≤ traffic.server.hub.occupied := Nat.le_add_right _ _
    _ ≤ site.config.maxConnections := roomy.fits

end

/-- In every state, the clients that were not refused are no more than the limit, and so are all
clients while no refused one lingers. -/
theorem clients_bounded (site : Site App) (confined : site.Confined false)
    (distinct : Function.Injective site.connections) (events : List TrafficEvent)
    (allowed : Allows false events) :
    ((site.after events).server.gateway.clients.clientIds.filter
        (fun id => id ∉ site.lingering (site.after events))).length ≤
      site.config.maxConnections ∧
    (site.lingering (site.after events) = [] →
      (site.after events).server.gateway.clients.size ≤ site.config.maxConnections) := by
  have orderly := orderly_after confined distinct events allowed
  have bounded := (roomy_after confined distinct events allowed).bounded orderly
  refine ⟨bounded, ?_⟩
  intro nobody
  have everybody : (site.after events).server.gateway.clients.clientIds.filter
      (fun id => id ∉ site.lingering (site.after events)) =
        (site.after events).server.gateway.clients.clientIds := by
    rw [List.filter_eq_self, nobody]
    simp
  rw [everybody, ClientRegistry.clientIds, Std.TreeMap.length_keys] at bounded
  exact bounded

/-! ### A slot that is given away too early -/

/-- A server with one slot that refuses a client. -/
def doorstep : Site Journal :=
  stocked { maxConnections := 1 } { refusals := some [("u1", "banned")] } [("join", some .join)]

/-- The client is refused. Before it leaves, another one comes. -/
def crowding : List TrafficEvent :=
  [.request (Handshake.withQuery {} "token" "u1")] ++ List.replicate 8 (.advance 0 0) ++
    [.request (Handshake.withQuery {} "token" "u2")] ++ List.replicate 6 (.advance 1 1)

private theorem doorstep_confined : doorstep.Confined false := by
  refine stocked_confined _ _ _ ?_
  intro event isListed
  simp at isListed

private theorem crowding_allowed : Allows false crowding := by
  intro call isCall
  simp [crowding] at isCall

theorem doorstep_bounded :
    doorstep.Confined false ∧ Function.Injective doorstep.connections ∧ Allows false crowding ∧
      doorstep.lingering (doorstep.after crowding) = [⟨"u1"⟩] ∧
      ((doorstep.after crowding).server.gateway.clients.clientIds.filter
        (fun id => id ∉ doorstep.lingering (doorstep.after crowding))).length ≤ 1 := by
  have distinct : Function.Injective doorstep.connections := stocked_distinct _ _ _
  have bounded := clients_bounded doorstep doorstep_confined distinct crowding crowding_allowed
  exact ⟨doorstep_confined, distinct, crowding_allowed, by decide +kernel, bounded.1⟩

/-- The slot of the refused client is free again while the client is still online. -/
theorem doorstep_crowded :
    doorstep.Confined false ∧ Function.Injective doorstep.connections ∧ Allows false crowding ∧
      doorstep.config.maxConnections = 1 ∧
      (doorstep.after crowding).server.gateway.clients.clientIds = [⟨"u1"⟩, ⟨"u2"⟩] ∧
      ¬ (doorstep.after crowding).server.gateway.clients.size ≤ 1 :=
  ⟨doorstep_confined, stocked_distinct _ _ _, crowding_allowed, rfl, by decide +kernel,
    by decide +kernel⟩

end Site

end SocketGateway
