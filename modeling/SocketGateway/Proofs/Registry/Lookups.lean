import SocketGateway.ClientRegistry

/-!
Contract: what each operation of a registry makes of the lookups.

Owns:
- consistency: the clients, the index of connections and the idle marks agree;
- registering, deregistering and setting an option, seen through the lookups of a consistent
  registry;
- which connections come to belong to a client, and which ones are closed when they cease to.

Does not own: that operations keep a registry consistent.
-/

namespace SocketGateway.ClientRegistry

/-- The connection of a client that is online. -/
def connectionOf (registry : ClientRegistry) (id : ClientId) : Option Connection :=
  registry.clients[id]?.bind Client.connection

/-- Whether a client is bound to a connection with that id. -/
def IsOn (registry : ClientRegistry) (id : ClientId) (key : ConnectionId) : Prop :=
  registry.clients[id]?.bind Client.connectionId? = some key

instance (registry : ClientRegistry) (id : ClientId) (key : ConnectionId) :
    Decidable (registry.IsOn id key) :=
  inferInstanceAs (Decidable (_ = _))

theorem isOn_iff {registry : ClientRegistry} {id : ClientId} {key : ConnectionId} :
    registry.IsOn id key ↔
      ∃ connection, registry.connectionOf id = some connection ∧ connection.id = key := by
  unfold IsOn connectionOf
  cases registry.clients[id]? <;> simp [Client.connectionId?]

theorem IsOn.key_unique {registry : ClientRegistry} {id : ClientId} {key other : ConnectionId}
    (on : registry.IsOn id key) (onOther : registry.IsOn id other) : key = other :=
  Option.some.inj (on.symm.trans onOther)

theorem IsOn.isSome {registry : ClientRegistry} {id : ClientId} {key : ConnectionId}
    (on : registry.IsOn id key) : registry.clients[id]?.isSome := by
  obtain ⟨client, found, -⟩ := Option.bind_eq_some_iff.mp on
  simp [found]

/-- The idle marks have different numbers, and none beyond the count. -/
structure Numbered (registry : ClientRegistry) : Prop where
  distinct : ∀ {left right : ClientId} {leftMark rightMark : IdleMark},
    registry.idleMarks[left]? = some leftMark → registry.idleMarks[right]? = some rightMark →
      leftMark.number = rightMark.number → left = right
  counted : ∀ {id : ClientId} {mark : IdleMark}, registry.idleMarks[id]? = some mark →
    mark.number ≤ registry.marksSet

/-- The parts of a registry agree with each other. -/
structure Consistent (registry : ClientRegistry) : Prop where
  named : ∀ {id : ClientId} {client : Client}, registry.clients[id]? = some client → client.id = id
  bound : ∀ {id : ClientId} {client : Client}, registry.clients[id]? = some client →
    client.isBound = true
  /-- The index is the inverse of the bindings. -/
  owned : ∀ {key : ConnectionId} {id : ClientId},
    registry.owners[key]? = some id ↔ registry.IsOn id key
  marked : ∀ {id : ClientId}, id ∈ registry.idleMarks → id ∈ registry.clients
  numbered : registry.Numbered

/-- A connection belongs to one client only. -/
theorem Consistent.owner_unique {registry : ClientRegistry} (consistent : registry.Consistent)
    {left right : ClientId} {key : ConnectionId} (onLeft : registry.IsOn left key)
    (onRight : registry.IsOn right key) : left = right :=
  Option.some.inj ((consistent.owned.mpr onLeft).symm.trans (consistent.owned.mpr onRight))

/-- A client that is online is on a connection, which belongs to it. -/
theorem Consistent.isOn_of_mem {registry : ClientRegistry} (consistent : registry.Consistent)
    {id : ClientId} (online : id ∈ registry.clients) :
    ∃ key, registry.IsOn id key ∧ registry.lookup key = some id := by
  rw [Std.TreeMap.mem_iff_isSome_getElem?] at online
  obtain ⟨client, found⟩ := Option.isSome_iff_exists.mp online
  obtain ⟨connection, itsOwn⟩ := Option.isSome_iff_exists.mp (consistent.bound found)
  have on : registry.IsOn id connection.id :=
    isOn_iff.mpr ⟨connection, by rw [connectionOf, found, Option.bind_some, itsOwn], rfl⟩
  exact ⟨connection.id, on, consistent.owned.mpr on⟩

/-- A client that is online sends on its connection. -/
theorem Consistent.signaling {World : Type} {registry : ClientRegistry}
    (consistent : registry.Consistent) {id : ClientId} {client : Client}
    (found : registry.clients[id]? = some client) (transport : Transport World) (event : String)
    (data : Json) (world : World) :
    ∃ connection, client.connection = some connection ∧
      registry.signaling transport id event data world =
        Client.passOn (transport.emit connection event data world) := by
  obtain ⟨connection, itsConnection⟩ := Option.isSome_iff_exists.mp (consistent.bound found)
  refine ⟨connection, itsConnection, ?_⟩
  simp [ClientRegistry.signaling, get?, found, Client.send, Client.whenBound, itsConnection]

/-! ### Entering a client -/

/-- What entering a client makes of the lookups: its connection is taken from the client to which
it belonged, if there was one, and that client leaves. -/
structure Entered (before after : ClientRegistry) (id : ClientId) (connection : Connection)
    (option : String) (now : Int64) : Prop where
  clients : ∀ other, after.clients[other]? =
    if id = other then some ⟨id, option, some connection⟩
    else if before.owners[connection.id]? = some other then none else before.clients[other]?
  owners : ∀ key, after.owners[key]? =
    if connection.id = key then some id else before.owners[key]?
  idleMarks : ∀ other, after.idleMarks[other]? =
    if id = other then some ⟨before.marksSet + 1, now⟩
    else if before.owners[connection.id]? = some other ∧ other ∈ before.clients then none
    else before.idleMarks[other]?
  marksSet : after.marksSet = before.marksSet + 1

private theorem clients_releaseConnection (registry : ClientRegistry) (key : ConnectionId)
    (other : ClientId) :
    (registry.releaseConnection key).clients[other]? =
      if registry.owners[key]? = some other then none else registry.clients[other]? := by
  unfold releaseConnection
  cases found : registry.owners[key]? with
  | none => simp
  | some owner =>
    by_cases online : owner ∈ registry.clients
    · simp [online, Std.TreeMap.getElem?_erase]
    · by_cases same : owner = other
      · subst same
        simp [online]
      · simp [online, same]

private theorem owners_releaseConnection (registry : ClientRegistry) (key other : ConnectionId) :
    (registry.releaseConnection key).owners[other]? =
      if key = other then none else registry.owners[other]? := by
  unfold releaseConnection
  cases found : registry.owners[key]? with
  | none =>
    by_cases same : key = other
    · simp [← same, found]
    · simp [same]
  | some owner => by_cases online : owner ∈ registry.clients <;>
      simp [online, Std.TreeMap.getElem?_erase]

private theorem idleMarks_releaseConnection (registry : ClientRegistry) (key : ConnectionId)
    (other : ClientId) :
    (registry.releaseConnection key).idleMarks[other]? =
      if registry.owners[key]? = some other ∧ other ∈ registry.clients then none
      else registry.idleMarks[other]? := by
  unfold releaseConnection
  cases found : registry.owners[key]? with
  | none => simp
  | some owner =>
    by_cases online : owner ∈ registry.clients
    · by_cases same : owner = other
      · subst same
        simp [online]
      · simp [online, same, Std.TreeMap.getElem?_erase]
    · by_cases same : owner = other
      · subst same
        simp [online]
      · simp [online, same]

private theorem marksSet_releaseConnection (registry : ClientRegistry) (key : ConnectionId) :
    (registry.releaseConnection key).marksSet = registry.marksSet := by
  unfold releaseConnection
  cases registry.owners[key]? with
  | none => rfl
  | some owner => by_cases online : owner ∈ registry.clients <;> simp [online]

/-- An unbound client is entered under its own id without refusal. -/
theorem enroll_unbound (registry : ClientRegistry) {id : ClientId} {client : Client}
    (named : client.id = id) (unbound : client.connection = none) (connection : Connection)
    (option : String) (now : Int64) :
    (registry.enroll id client connection option now).2 = .ok () ∧
      Entered registry (registry.enroll id client connection option now).1 id connection option
        now := by
  have binds : client.bind connection option = .ok ⟨id, option, some connection⟩ := by
    simp [Client.bind, unbound, named]
  unfold enroll
  rw [binds]
  refine ⟨rfl, ?_, ?_, ?_, ?_⟩
  · intro other
    simp [markIdle, Std.TreeMap.getElem?_insert, clients_releaseConnection]
  · intro key
    by_cases same : connection.id = key
    · simp [markIdle, same]
    · simp [markIdle, same, Std.TreeMap.getElem?_insert, owners_releaseConnection]
  · intro other
    simp [markIdle, Std.TreeMap.getElem?_insert, idleMarks_releaseConnection,
      marksSet_releaseConnection]
  · simp [markIdle, marksSet_releaseConnection]

/-! ### Registering -/

/-- What a registration that is not void makes of the lookups: the client leaves its connection,
and the client to which the new connection belonged leaves the registry. -/
structure Moved (before after : ClientRegistry) (id : ClientId) (connection : Connection)
    (option : String) (now : Int64) : Prop where
  clients : ∀ other, after.clients[other]? =
    if id = other then some ⟨id, option, some connection⟩
    else if before.IsOn other connection.id then none else before.clients[other]?
  owners : ∀ key, after.owners[key]? =
    if connection.id = key then some id
    else if before.IsOn id key then none else before.owners[key]?
  idleMarks : ∀ other, after.idleMarks[other]? =
    if id = other then some ⟨before.marksSet + 1, now⟩
    else if before.IsOn other connection.id then none else before.idleMarks[other]?
  marksSet : after.marksSet = before.marksSet + 1

section Register

variable {registry : ClientRegistry} {id : ClientId} {connection : Connection}

theorem register_same (same : registry.IsOn id connection.id) (option : String) (now : Int64) :
    registry.register id connection option now = ⟨registry, .ok (), none⟩ := by
  obtain ⟨current, known, currentId⟩ := isOn_iff.mp same
  obtain ⟨client, found, itsConnection⟩ := Option.bind_eq_some_iff.mp known
  simp [register, found, itsConnection, currentId]

/-- Entering a client where it was taken out before, together with its place in the index. -/
theorem Entered.moved {left after : ClientRegistry} {option : String} {now : Int64}
    (entered : Entered left after id connection option now)
    (consistent : registry.Consistent) (elsewhere : ¬ registry.IsOn id connection.id)
    (clients : ∀ other, id ≠ other → left.clients[other]? = registry.clients[other]?)
    (owners : ∀ key, left.owners[key]? =
      if registry.IsOn id key then none else registry.owners[key]?)
    (idleMarks : left.idleMarks = registry.idleMarks)
    (marksSet : left.marksSet = registry.marksSet) :
    Moved registry after id connection option now := by
  have owner : ∀ other, left.owners[connection.id]? = some other ↔
      registry.IsOn other connection.id := by
    intro other
    rw [owners, if_neg elsewhere, consistent.owned]
  refine ⟨?_, ?_, ?_, by rw [entered.marksSet, marksSet]⟩
  · intro other
    rw [entered.clients]
    by_cases same : id = other
    · simp [same]
    · simp only [same, if_false, owner, clients other same]
  · intro key
    rw [entered.owners, owners]
  · intro other
    rw [entered.idleMarks, idleMarks, marksSet]
    by_cases same : id = other
    · simp [same]
    · have online : registry.IsOn other connection.id → other ∈ left.clients := by
        intro on
        rw [Std.TreeMap.mem_iff_isSome_getElem?, clients other same]
        exact on.isSome
      simp only [same, if_false, owner, and_iff_left_of_imp online]

theorem register_moved (consistent : registry.Consistent)
    (elsewhere : ¬ registry.IsOn id connection.id) (option : String) (now : Int64) :
    (registry.register id connection option now).result = .ok () ∧
      (registry.register id connection option now).evicted = registry.connectionOf id ∧
      Moved registry (registry.register id connection option now).registry id connection option
        now := by
  cases found : registry.clients[id]? with
  | none =>
    obtain ⟨accepted, entered⟩ :=
      registry.enroll_unbound (rfl : ({ id := id } : Client).id = id) rfl connection option now
    simp only [register, found, connectionOf]
    refine ⟨accepted, rfl, entered.moved consistent elsewhere (by simp) ?_ rfl rfl⟩
    simp [IsOn, found]
  | some known =>
    obtain ⟨current, itsConnection⟩ := Option.isSome_iff_exists.mp (consistent.bound found)
    have currentOnly : ∀ key, registry.IsOn id key ↔ current.id = key := by
      simp [IsOn, found, Client.connectionId?, itsConnection]
    have different : current.id ≠ connection.id := by simpa [currentOnly] using elsewhere
    have named : known.unbind.id = id := by simpa [Client.unbind] using consistent.named found
    -- the client is taken out with its connection, and then entered like a new one
    let left : ClientRegistry :=
      { registry with
        clients := registry.clients.erase id
        owners := registry.owners.erase current.id }
    obtain ⟨accepted, entered⟩ := left.enroll_unbound named rfl connection option now
    simp only [register, found, itsConnection, different, if_false, connectionOf]
    refine ⟨accepted, itsConnection.symm, entered.moved consistent elsewhere ?_ ?_ rfl rfl⟩
    · intro other other_ne
      simp [left, Std.TreeMap.getElem?_erase, other_ne]
    · intro key
      simp [left, Std.TreeMap.getElem?_erase, currentOnly]

namespace Moved

variable {after : ClientRegistry} {option : String} {now : Int64}
  (moved : Moved registry after id connection option now)

include moved

theorem isOn_iff (other : ClientId) (key : ConnectionId) :
    after.IsOn other key ↔
      if id = other then connection.id = key
      else registry.IsOn other key ∧ connection.id ≠ key := by
  unfold IsOn
  rw [moved.clients]
  by_cases same : id = other
  · simp [same, Client.connectionId?]
  · simp only [same, if_false]
    by_cases previous : registry.IsOn other connection.id
    -- whoever was on the connection was on no other one, and is gone
    · have only : ∀ key, registry.clients[other]?.bind Client.connectionId? = some key ↔
          connection.id = key :=
        fun key => ⟨fun on => previous.key_unique on, fun equal => equal ▸ previous⟩
      simp [previous, only]
    · have other_key : registry.clients[other]?.bind Client.connectionId? = some key →
          connection.id ≠ key :=
        fun on equal => previous (equal ▸ on)
      simp only [previous, if_false]
      exact ⟨fun on => ⟨on, other_key on⟩, And.left⟩

end Moved

/-- No registration is refused. -/
theorem Consistent.register_ok (consistent : registry.Consistent) (id : ClientId)
    (connection : Connection) (option : String) (now : Int64) :
    (registry.register id connection option now).result = .ok () := by
  by_cases same : registry.IsOn id connection.id
  · rw [register_same same]
  · exact (register_moved consistent same option now).1

end Register

/-! ### Deregistering -/

/-- The registry without a client and the place of its connection in the index. -/
def remove (registry : ClientRegistry) (id : ClientId) (key : ConnectionId) : ClientRegistry :=
  { registry with
    clients := registry.clients.erase id
    owners := registry.owners.erase key
    idleMarks := registry.idleMarks.erase id }

section Deregister

variable {registry : ClientRegistry} {id : ClientId}

theorem clients_remove (key : ConnectionId) (other : ClientId) :
    (registry.remove id key).clients[other]? =
      if id = other then none else registry.clients[other]? := by
  simp [remove, Std.TreeMap.getElem?_erase]

theorem owners_remove (key other : ConnectionId) :
    (registry.remove id key).owners[other]? =
      if key = other then none else registry.owners[other]? := by
  simp [remove, Std.TreeMap.getElem?_erase]

theorem idleMarks_remove (key : ConnectionId) (other : ClientId) :
    (registry.remove id key).idleMarks[other]? =
      if id = other then none else registry.idleMarks[other]? := by
  simp [remove, Std.TreeMap.getElem?_erase]

theorem isOn_remove (key other : ConnectionId) (someone : ClientId) :
    (registry.remove id key).IsOn someone other ↔ id ≠ someone ∧ registry.IsOn someone other := by
  unfold IsOn
  rw [clients_remove]
  by_cases same : id = someone <;> simp [same]

/-- A connection that belongs to nobody is handed back to be closed. -/
theorem deregister_unknown {connection : Connection}
    (unknown : registry.owners[connection.id]? = none) :
    registry.deregister connection = ⟨registry, none, some connection⟩ := by
  simp [deregister, unknown]

/-- The client of a connection leaves, and the connection to which it was bound has to be closed. -/
theorem deregister_known {connection : Connection} (consistent : registry.Consistent)
    (known : registry.owners[connection.id]? = some id) :
    ∃ client current, registry.clients[id]? = some client ∧ client.connection = some current ∧
      current.id = connection.id ∧
      registry.deregister connection =
        ⟨registry.remove id connection.id, some (id, client.option), some current⟩ := by
  obtain ⟨client, found, itsId⟩ := Option.bind_eq_some_iff.mp (consistent.owned.mp known)
  obtain ⟨current, itsConnection, sameId⟩ := Option.map_eq_some_iff.mp itsId
  refine ⟨client, current, found, itsConnection, sameId, ?_⟩
  simp [deregister, known, found, itsConnection, remove]

/-- What a deregistration makes of the lookups: the client to which the connection belonged leaves,
and everybody else stays. -/
structure Departed (before after : ClientRegistry) (key : ConnectionId) : Prop where
  clients : ∀ other, after.clients[other]? =
    if before.IsOn other key then none else before.clients[other]?
  owners : ∀ other, after.owners[other]? = if key = other then none else before.owners[other]?
  idleMarks : ∀ other, after.idleMarks[other]? =
    if before.IsOn other key then none else before.idleMarks[other]?
  marksSet : after.marksSet = before.marksSet

theorem deregister_departed (consistent : registry.Consistent) (connection : Connection) :
    Departed registry (registry.deregister connection).registry connection.id := by
  cases owner : registry.owners[connection.id]? with
  | none =>
    have nobody : ∀ other, ¬ registry.IsOn other connection.id := by
      intro other
      rw [← consistent.owned, owner]
      exact nofun
    rw [deregister_unknown owner]
    refine ⟨fun other => (if_neg (nobody other)).symm, ?_,
      fun other => (if_neg (nobody other)).symm, rfl⟩
    intro other
    by_cases same : connection.id = other
    · rw [if_pos same, ← same, owner]
    · rw [if_neg same]
  | some id =>
    have onlyOwner : ∀ other, registry.IsOn other connection.id ↔ id = other := by
      intro other
      rw [← consistent.owned, owner, Option.some.injEq]
    obtain ⟨client, current, -, -, -, result⟩ := deregister_known consistent owner
    rw [result]
    refine ⟨?_, owners_remove _, ?_, rfl⟩
    · intro other
      rw [clients_remove]
      simp only [onlyOwner]
    · intro other
      rw [idleMarks_remove]
      simp only [onlyOwner]

theorem Departed.isOn_iff {after : ClientRegistry} {key : ConnectionId}
    (departed : Departed registry after key) (someone : ClientId) (other : ConnectionId) :
    after.IsOn someone other ↔ registry.IsOn someone other ∧ key ≠ other := by
  have onOther : registry.IsOn someone other ↔
      registry.clients[someone]?.bind Client.connectionId? = some other :=
    Iff.rfl
  rw [IsOn, departed.clients]
  by_cases left : registry.IsOn someone key
  · rw [if_pos left]
    refine iff_of_false nofun ?_
    rintro ⟨on, different⟩
    exact different (left.key_unique on)
  · rw [if_neg left, ← onOther]
    refine (and_iff_left_of_imp ?_).symm
    rintro on rfl
    exact left on

end Deregister

/-! ### Connections that change hands -/

section

variable {registry : ClientRegistry} {connection : Connection} {key : ConnectionId}

/-- A registration gives a client to its own connection only. -/
theorem lookup_register (consistent : registry.Consistent) (id : ClientId) (option : String)
    (now : Int64)
    (belongs : ((registry.register id connection option now).registry.lookup key).isSome) :
    connection.id = key ∨ (registry.lookup key).isSome := by
  by_cases same : registry.IsOn id connection.id
  · rw [register_same same] at belongs
    exact Or.inr belongs
  · rw [lookup, (register_moved consistent same option now).2.2.owners] at belongs
    split at belongs
    · next itself => exact Or.inl itself
    · split at belongs
      · cases belongs
      · exact Or.inr belongs

/-- The connection that a registration evicts belonged to a client, and belongs to nobody now. -/
theorem lookup_evicted (consistent : registry.Consistent) {id : ClientId} {option : String}
    {now : Int64} {evicted : Connection}
    (evicts : (registry.register id connection option now).evicted = some evicted) :
    (registry.lookup evicted.id).isSome ∧
      (registry.register id connection option now).registry.lookup evicted.id = none := by
  by_cases same : registry.IsOn id connection.id
  · rw [register_same same] at evicts
    cases evicts
  · obtain ⟨-, isEvicted, moved⟩ := register_moved consistent same option now
    rw [isEvicted] at evicts
    have on : registry.IsOn id evicted.id := isOn_iff.mpr ⟨evicted, evicts, rfl⟩
    have different : connection.id ≠ evicted.id := fun equal => same (equal ▸ on)
    refine ⟨?_, ?_⟩
    · rw [lookup, consistent.owned.mpr on]
      rfl
    · rw [lookup, moved.owners, if_neg different, if_pos on]

theorem lookup_deregister (consistent : registry.Consistent) (key : ConnectionId) :
    (registry.deregister connection).registry.lookup key =
      if connection.id = key then none else registry.lookup key :=
  (deregister_departed consistent connection).owners key

theorem closed_deregister (consistent : registry.Consistent) (connection : Connection) :
    ∃ closed, (registry.deregister connection).closed = some closed ∧
      closed.id = connection.id := by
  cases owned : registry.owners[connection.id]? with
  | none =>
    rw [deregister_unknown owned]
    exact ⟨connection, rfl, rfl⟩
  | some id =>
    obtain ⟨client, current, -, -, sameId, result⟩ := deregister_known consistent owned
    rw [result]
    exact ⟨current, rfl, sameId⟩

/-- A registration takes a connection away from a client only by evicting it. -/
theorem evicted_of_lost (consistent : registry.Consistent) {id : ClientId} {option : String}
    {now : Int64} (belonged : (registry.lookup key).isSome)
    (lost : (registry.register id connection option now).registry.lookup key = none) :
    ∃ evicted, (registry.register id connection option now).evicted = some evicted ∧
      evicted.id = key := by
  by_cases same : registry.IsOn id connection.id
  · rw [register_same same] at lost
    rw [lost] at belonged
    cases belonged
  · obtain ⟨-, isEvicted, moved⟩ := register_moved consistent same option now
    rw [lookup, moved.owners] at lost
    split at lost
    · cases lost
    · split at lost
      · next on =>
        rw [isEvicted]
        exact isOn_iff.mp on
      · rw [lookup, lost] at belonged
        cases belonged

/-- A deregistration takes away its own connection only, and closes it. -/
theorem closed_of_lost (consistent : registry.Consistent) (belonged : (registry.lookup key).isSome)
    (lost : (registry.deregister connection).registry.lookup key = none) :
    ∃ closed, (registry.deregister connection).closed = some closed ∧ closed.id = key := by
  obtain ⟨closed, isClosed, sameId⟩ := closed_deregister consistent connection
  refine ⟨closed, isClosed, sameId.trans ?_⟩
  rw [lookup_deregister consistent] at lost
  split at lost
  · next itself => exact itself
  · rw [lost] at belonged
    cases belonged

end

/-! ### Setting an option -/

section

variable {registry : ClientRegistry}

theorem clients_setOption (id : ClientId) (option : String) (other : ClientId) :
    (registry.setOption id option).2.clients[other]? =
      registry.clients[other]?.map fun client =>
        if id = other then { client with option := option } else client := by
  unfold setOption get?
  cases found : registry.clients[id]? with
  | none =>
    by_cases same : id = other
    · simp [← same, found]
    · simp [same]
  | some client =>
    by_cases same : id = other
    · simp [← same, found]
    · simp [same, Std.TreeMap.getElem?_insert]

/-- Setting an option touches the clients only. -/
theorem setOption_eq (id : ClientId) (option : String) :
    (registry.setOption id option).2 =
      { registry with clients := (registry.setOption id option).2.clients } := by
  unfold setOption
  cases registry.get? id <;> rfl

theorem isOn_setOption (id : ClientId) (option : String) (other : ClientId) (key : ConnectionId) :
    (registry.setOption id option).2.IsOn other key ↔ registry.IsOn other key := by
  unfold IsOn
  rw [clients_setOption]
  cases registry.clients[other]? with
  | none => simp
  | some client => by_cases same : id = other <;> simp [same, Client.connectionId?]

end

end SocketGateway.ClientRegistry
