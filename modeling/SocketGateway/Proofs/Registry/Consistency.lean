import Mathlib.Data.List.Induction
import SocketGateway.Proofs.Registry.Lookups

/-!
Contract: every registry that was empty once is consistent.

Owns:
- runs of the operations that may change a registry;
- that each operation keeps a registry consistent, and so does a run;
- that certain refusals never arise in such a registry.

Does not own: what a registry shows to its callers.
-/

namespace SocketGateway

/-- A call that may change a registry. `now` is what the registry's clock shows in that call. -/
inductive RegistryCall where
  | register (id : ClientId) (connection : Connection) (option : String) (now : Int64)
  | deregister (connection : Connection)
  | idle (id : ClientId) (now : Int64)
  | leaveIdle (id : ClientId)
  | setOption (id : ClientId) (option : String)
deriving DecidableEq, Repr

namespace ClientRegistry

/-- The registry after a call. -/
def perform (registry : ClientRegistry) : RegistryCall → ClientRegistry
  | .register id connection option now => (registry.register id connection option now).registry
  | .deregister connection => (registry.deregister connection).registry
  | .idle id now => (registry.idle id now).2
  | .leaveIdle id => registry.leaveIdle id
  | .setOption id option => (registry.setOption id option).2

/-- The registry after these calls on an empty one. -/
def after (calls : List RegistryCall) : ClientRegistry := calls.foldl perform {}

theorem after_concat (calls : List RegistryCall) (call : RegistryCall) :
    after (calls ++ [call]) = (after calls).perform call := by
  simp [after]

/-! ### The empty registry -/

theorem consistent_empty : Consistent {} where
  named := by simp
  bound := by simp
  owned := by simp [IsOn]
  marked := by simp
  numbered := ⟨by simp, by simp⟩

/-- Marks stay numbered when some go and one is set under the next number. -/
theorem Numbered.mark_next {before after : ClientRegistry} (numbered : before.Numbered)
    (id : ClientId) (count : after.marksSet = before.marksSet + 1)
    (origin : ∀ {other : ClientId} {mark : IdleMark}, after.idleMarks[other]? = some mark →
      (id = other ∧ mark.number = before.marksSet + 1) ∨ before.idleMarks[other]? = some mark) :
    after.Numbered where
  distinct := by
    intro left right leftMark rightMark foundLeft foundRight same
    rcases origin foundLeft with ⟨isLeft, number⟩ | oldLeft <;>
      rcases origin foundRight with ⟨isRight, number'⟩ | oldRight
    · exact isLeft.symm.trans isRight
    · have := numbered.counted oldRight
      omega
    · have := numbered.counted oldLeft
      omega
    · exact numbered.distinct oldLeft oldRight same
  counted := by
    intro other mark found
    rw [count]
    rcases origin found with ⟨-, number⟩ | old
    · exact Nat.le_of_eq number
    · exact Nat.le_succ_of_le (numbered.counted old)

/-- Marks stay numbered when some go. -/
theorem Numbered.drop {before after : ClientRegistry} (numbered : before.Numbered)
    (count : after.marksSet = before.marksSet)
    (origin : ∀ {other : ClientId} {mark : IdleMark}, after.idleMarks[other]? = some mark →
      before.idleMarks[other]? = some mark) :
    after.Numbered where
  distinct foundLeft foundRight := numbered.distinct (origin foundLeft) (origin foundRight)
  counted found := count ▸ numbered.counted (origin found)

/-! ### Registering -/

namespace Moved

variable {registry after : ClientRegistry} {id : ClientId} {connection : Connection}
  {option : String} {now : Int64} (moved : Moved registry after id connection option now)

include moved

/-- Every client after the registration was there before, or is the one that was entered. -/
theorem client_origin {other : ClientId} {client : Client}
    (found : after.clients[other]? = some client) :
    (id = other ∧ client = ⟨id, option, some connection⟩) ∨
      registry.clients[other]? = some client := by
  rw [moved.clients] at found
  split at found
  · next same => exact Or.inl ⟨same, (Option.some.inj found).symm⟩
  · split at found
    · cases found
    · exact Or.inr found

theorem consistent (before : registry.Consistent) : after.Consistent where
  named := by
    intro other client found
    rcases moved.client_origin found with ⟨same, rfl⟩ | old
    · exact same
    · exact before.named old
  bound := by
    intro other client found
    rcases moved.client_origin found with ⟨-, rfl⟩ | old
    · rfl
    · exact before.bound old
  owned := by
    intro key other
    rw [moved.owners, moved.isOn_iff]
    -- of the old index, the new connection's place and that of the client's old one are gone
    by_cases sameKey : connection.id = key
    · simp [sameKey]
    · by_cases sameId : id = other
      · subst sameId
        have free : registry.owners[key]? = some id → registry.IsOn id key := before.owned.mp
        by_cases on : registry.IsOn id key
        · simp [sameKey, on]
        · simpa [sameKey, on] using fun owned => on (free owned)
      · by_cases on : registry.IsOn id key
        · have notOther : ¬ registry.IsOn other key :=
            fun onOther => sameId (before.owner_unique on onOther)
          simp [sameKey, sameId, on, notOther]
        · simp [sameKey, sameId, on, before.owned]
  marked := by
    intro other
    rw [Std.TreeMap.mem_iff_isSome_getElem?, Std.TreeMap.mem_iff_isSome_getElem?, moved.clients,
      moved.idleMarks]
    split
    · simp
    · split
      · simp
      · rw [← Std.TreeMap.mem_iff_isSome_getElem?, ← Std.TreeMap.mem_iff_isSome_getElem?]
        exact before.marked
  numbered := by
    refine before.numbered.mark_next id moved.marksSet ?_
    intro other mark found
    rw [moved.idleMarks] at found
    split at found
    · next same =>
      cases found
      exact Or.inl ⟨same, rfl⟩
    · split at found
      · cases found
      · exact Or.inr found

end Moved

theorem Consistent.register {registry : ClientRegistry} (consistent : registry.Consistent)
    (id : ClientId) (connection : Connection) (option : String) (now : Int64) :
    (registry.register id connection option now).registry.Consistent := by
  by_cases same : registry.IsOn id connection.id
  · rw [register_same same]
    exact consistent
  · exact (register_moved consistent same option now).2.2.consistent consistent

theorem Consistent.register_origin {registry : ClientRegistry} (consistent : registry.Consistent)
    {id other : ClientId} {connection : Connection} {option : String} {now : Int64}
    {client : Client}
    (found : (registry.register id connection option now).registry.clients[other]? = some client) :
    (id = other ∧ client = ⟨id, option, some connection⟩) ∨
      registry.clients[other]? = some client := by
  by_cases same : registry.IsOn id connection.id
  · rw [register_same same] at found
    exact Or.inr found
  · exact (register_moved consistent same option now).2.2.client_origin found

/-! ### Deregistering, idle marks and options -/

section

variable {registry : ClientRegistry}

/-- Every client after a removal was there before. -/
theorem remove_origin {id other : ClientId} {key : ConnectionId} {client : Client}
    (found : (registry.remove id key).clients[other]? = some client) :
    registry.clients[other]? = some client := by
  rw [clients_remove] at found
  split at found
  · cases found
  · exact found

theorem Consistent.remove (consistent : registry.Consistent) {id : ClientId}
    {key : ConnectionId}
    (on : registry.IsOn id key) : (registry.remove id key).Consistent where
  named := by
    intro other client found
    exact consistent.named (remove_origin found)
  bound := by
    intro other client found
    exact consistent.bound (remove_origin found)
  owned := by
    intro other someone
    rw [owners_remove, isOn_remove]
    by_cases sameKey : key = other
    · subst sameKey
      simpa using fun different onSame => different (consistent.owner_unique on onSame)
    · simp only [sameKey, if_false, consistent.owned]
      refine ⟨fun onOther => ⟨?_, onOther⟩, And.right⟩
      rintro rfl
      exact sameKey (on.key_unique onOther)
  marked := by
    intro other
    simp only [ClientRegistry.remove, Std.TreeMap.mem_erase]
    rintro ⟨different, marked⟩
    exact ⟨different, consistent.marked marked⟩
  numbered := by
    refine consistent.numbered.drop rfl ?_
    intro other mark found
    rw [idleMarks_remove] at found
    split at found
    · cases found
    · exact found

theorem Consistent.deregister (consistent : registry.Consistent) (connection : Connection) :
    (registry.deregister connection).registry.Consistent := by
  cases owner : registry.owners[connection.id]? with
  | none =>
    rw [deregister_unknown owner]
    exact consistent
  | some id =>
    obtain ⟨client, current, -, -, -, result⟩ := deregister_known consistent owner
    rw [result]
    exact consistent.remove (consistent.owned.mp owner)

theorem Consistent.deregister_origin (consistent : registry.Consistent) {connection : Connection}
    {other : ClientId} {client : Client}
    (found : (registry.deregister connection).registry.clients[other]? = some client) :
    registry.clients[other]? = some client := by
  cases owner : registry.owners[connection.id]? with
  | none =>
    rw [deregister_unknown owner] at found
    exact found
  | some id =>
    obtain ⟨former, current, -, -, -, result⟩ := deregister_known consistent owner
    rw [result] at found
    exact remove_origin found

/-- Only clients and their bindings matter for the index. -/
theorem Consistent.of_marks (consistent : registry.Consistent) {after : ClientRegistry}
    (clients : after.clients = registry.clients) (owners : after.owners = registry.owners)
    (marked : ∀ {id : ClientId}, id ∈ after.idleMarks → id ∈ registry.clients)
    (numbered : after.Numbered) : after.Consistent where
  named := by rw [clients]; exact consistent.named
  bound := by rw [clients]; exact consistent.bound
  owned := by
    intro key id
    rw [owners, consistent.owned, IsOn, IsOn, clients]
  marked := by rw [clients]; exact marked
  numbered := numbered

theorem idleMarks_markIdle (id : ClientId) (now : Int64) (other : ClientId) :
    (registry.markIdle id now).idleMarks[other]? =
      if id = other then some ⟨registry.marksSet + 1, now⟩ else registry.idleMarks[other]? := by
  simp [markIdle, Std.TreeMap.getElem?_insert]

theorem Consistent.markIdle (consistent : registry.Consistent) {id : ClientId}
    (online : id ∈ registry.clients) (now : Int64) : (registry.markIdle id now).Consistent := by
  refine consistent.of_marks rfl rfl ?_ ?_
  · intro other
    simp only [ClientRegistry.markIdle, Std.TreeMap.mem_insert,
      Std.LawfulEqCmp.compare_eq_iff_eq]
    rintro (rfl | marked)
    · exact online
    · exact consistent.marked marked
  · refine consistent.numbered.mark_next id rfl ?_
    intro other mark found
    rw [idleMarks_markIdle] at found
    split at found
    · next same =>
      cases found
      exact Or.inl ⟨same, rfl⟩
    · exact Or.inr found

theorem Consistent.idle (consistent : registry.Consistent) (id : ClientId) (now : Int64) :
    (registry.idle id now).2.Consistent := by
  unfold ClientRegistry.idle
  split
  · next online => exact consistent.markIdle (Std.TreeMap.mem_iff_contains.mpr online) now
  · exact consistent

theorem Consistent.leaveIdle (consistent : registry.Consistent) (id : ClientId) :
    (registry.leaveIdle id).Consistent := by
  refine consistent.of_marks rfl rfl ?_ ?_
  · intro other marked
    exact consistent.marked (Std.TreeMap.mem_of_mem_erase marked)
  · refine consistent.numbered.drop rfl ?_
    intro other mark found
    simp only [ClientRegistry.leaveIdle, Std.TreeMap.getElem?_erase] at found
    split at found
    · cases found
    · exact found

theorem Consistent.setOption (consistent : registry.Consistent) (id : ClientId)
    (option : String) : (registry.setOption id option).2.Consistent where
  named := by
    intro other client found
    rw [clients_setOption, Option.map_eq_some_iff] at found
    obtain ⟨previous, known, rfl⟩ := found
    have sameName : previous.id = other := consistent.named known
    split <;> exact sameName
  bound := by
    intro other client found
    rw [clients_setOption, Option.map_eq_some_iff] at found
    obtain ⟨previous, known, rfl⟩ := found
    have stillBound : previous.isBound = true := consistent.bound known
    split <;> exact stillBound
  owned := by
    intro key other
    rw [isOn_setOption, setOption_eq]
    exact consistent.owned
  marked := by
    intro other marked
    rw [setOption_eq] at marked
    have online := consistent.marked marked
    rw [Std.TreeMap.mem_iff_isSome_getElem?] at online ⊢
    rw [clients_setOption, Option.isSome_map]
    exact online
  numbered := by
    rw [setOption_eq]
    exact ⟨consistent.numbered.distinct, consistent.numbered.counted⟩

end

/-! ### Runs -/

theorem Consistent.perform {registry : ClientRegistry} (consistent : registry.Consistent)
    (call : RegistryCall) : (registry.perform call).Consistent := by
  cases call with
  | register id connection option now => exact consistent.register id connection option now
  | deregister connection => exact consistent.deregister connection
  | idle id now => exact consistent.idle id now
  | leaveIdle id => exact consistent.leaveIdle id
  | setOption id option => exact consistent.setOption id option

theorem consistent_after (calls : List RegistryCall) : (after calls).Consistent := by
  induction calls using List.reverseRecOn with
  | nil => exact consistent_empty
  | append_singleton calls call inductionHypothesis =>
    rw [after_concat]
    exact inductionHypothesis.perform call

/-- Each call sets at most one mark. -/
theorem Consistent.marksSet_perform_le {registry : ClientRegistry}
    (consistent : registry.Consistent) (call : RegistryCall) :
    (registry.perform call).marksSet ≤ registry.marksSet + 1 := by
  cases call with
  | register id connection option now =>
    simp only [ClientRegistry.perform]
    by_cases same : registry.IsOn id connection.id
    · rw [register_same same]
      exact Nat.le_succ _
    · exact Nat.le_of_eq (register_moved consistent same option now).2.2.marksSet
  | deregister connection =>
    simp only [ClientRegistry.perform]
    cases owner : registry.owners[connection.id]? with
    | none =>
      rw [deregister_unknown owner]
      exact Nat.le_succ _
    | some id =>
      obtain ⟨client, current, -, -, -, result⟩ := deregister_known consistent owner
      rw [result]
      exact Nat.le_succ _
  | idle id now =>
    simp only [ClientRegistry.perform, ClientRegistry.idle]
    split
    · exact Nat.le_refl _
    · exact Nat.le_succ _
  | leaveIdle id => exact Nat.le_succ _
  | setOption id option =>
    simp only [ClientRegistry.perform]
    rw [setOption_eq]
    exact Nat.le_succ _

theorem marksSet_after_le (calls : List RegistryCall) : (after calls).marksSet ≤ calls.length := by
  induction calls using List.reverseRecOn with
  | nil => exact Nat.le_refl _
  | append_singleton calls call inductionHypothesis =>
    rw [after_concat, List.length_append, List.length_singleton]
    have := (consistent_after calls).marksSet_perform_le call
    omega

/-- After any calls, the clients, the index and the marks agree, no connection has two clients and
no client two connections, and so a registration is never refused, a connection in the index never
lacks its client, and no client that is sent an event is without a connection. The marks are no
more than the calls, so a counter of 64 bits is enough for as many calls. -/
theorem registry_agrees_after_calls (calls : List RegistryCall) :
    let registry := after calls
    registry.Consistent ∧
      (∀ left right key, registry.IsOn left key → registry.IsOn right key → left = right) ∧
      (∀ id left right, registry.IsOn id left → registry.IsOn id right → left = right) ∧
      registry.marksSet ≤ calls.length ∧
      (∀ id connection option now,
        (registry.register id connection option now).result = .ok ()) ∧
      (∀ connection id, registry.lookup connection.id = some id →
        ∃ option, (registry.deregister connection).departed = some (id, option)) ∧
      ∀ (World : Type) (transport : Transport World) (id : ClientId) (event : String) (data : Json)
        (world : World) (client : String),
        (registry.signaling transport id event data world).1 ≠ .error (.notBound client) := by
  intro registry
  have consistent : registry.Consistent := consistent_after calls
  refine ⟨consistent, ?_, ?_, marksSet_after_le calls, ?_, ?_, ?_⟩
  · intro left right key onLeft onRight
    exact consistent.owner_unique onLeft onRight
  · intro id left right onLeft onRight
    exact onLeft.key_unique onRight
  · exact consistent.register_ok
  · intro connection id owned
    obtain ⟨client, current, -, -, -, result⟩ := deregister_known consistent owned
    exact ⟨client.option, by rw [result]⟩
  · intro World transport id event data world client
    cases found : registry.clients[id]? with
    | none => simp [ClientRegistry.signaling, get?, found]
    | some known =>
      obtain ⟨connection, -, sent⟩ := consistent.signaling found transport event data world
      rw [sent, Client.passOn]
      cases (transport.emit connection event data world).1 <;> simp [Except.mapError]

end ClientRegistry

end SocketGateway
