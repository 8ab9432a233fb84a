import SocketGateway.Proofs.Registry.Consistency

/-!
Contract: a disconnect event may come late or early.

Owns:
- when two registries hold the same;
- that a deregistration and a registration on another connection leave the same in both orders.

The two orders take different ways: a client that comes back is either removed and entered anew, or
moved while its former connection is evicted, which then belongs to nobody.

Does not own: which connections are closed on these ways, or what runs between the two.
-/

namespace SocketGateway

namespace ClientRegistry

/-- Both registries hold the same clients, the same index and the same marks, and number their next
mark alike. -/
structure Same (left right : ClientRegistry) : Prop where
  clients : left.clients.Equiv right.clients
  owners : left.owners.Equiv right.owners
  idleMarks : left.idleMarks.Equiv right.idleMarks
  marksSet : left.marksSet = right.marksSet

private theorem Same.of_lookups {left right : ClientRegistry}
    (clients : ∀ id : ClientId, left.clients[id]? = right.clients[id]?)
    (owners : ∀ key : ConnectionId, left.owners[key]? = right.owners[key]?)
    (idleMarks : ∀ id : ClientId, left.idleMarks[id]? = right.idleMarks[id]?)
    (marksSet : left.marksSet = right.marksSet) : Same left right where
  clients := .of_forall_constGet?_eq clients
  owners := .of_forall_constGet?_eq owners
  idleMarks := .of_forall_constGet?_eq idleMarks
  marksSet := marksSet

/-- The client is on its new connection, with its new option, and nobody is on the old one. -/
structure HasMoved (registry : ClientRegistry) (id : ClientId) (old new : Connection)
    (option : String) : Prop where
  client : registry.get? id = some ⟨id, option, some new⟩
  owner : registry.lookup new.id = some id
  free : registry.lookup old.id = none

private theorem Same.of_eq {left right : ClientRegistry} (same : left = right) : Same left right :=
  same ▸ .of_lookups (fun _ => rfl) (fun _ => rfl) (fun _ => rfl) rfl

private theorem Same.hasMoved {left right : ClientRegistry} (same : Same left right) {id : ClientId}
    {old new : Connection} {option : String} (moved : left.HasMoved id old new option) :
    right.HasMoved id old new option where
  client := same.clients.getElem?_eq.symm.trans moved.client
  owner := same.owners.getElem?_eq.symm.trans moved.owner
  free := same.owners.getElem?_eq.symm.trans moved.free

section

variable {registry : ClientRegistry} {id : ClientId} {old new : Connection}

/-- Whoever is on the new connection already stays there in both orders. -/
theorem deregister_register_same (consistent : registry.Consistent) (apart : old.id ≠ new.id)
    (same : registry.IsOn id new.id) (option : String) (now : Int64) :
    ((registry.deregister old).registry.register id new option now).registry =
      ((registry.register id new option now).registry.deregister old).registry := by
  have departed := deregister_departed consistent old
  have stillSame : (registry.deregister old).registry.IsOn id new.id :=
    (departed.isOn_iff id new.id).mpr ⟨same, apart⟩
  rw [register_same same, register_same stillSame]

theorem deregister_register_moved (consistent : registry.Consistent) (apart : old.id ≠ new.id)
    (elsewhere : ¬ registry.IsOn id new.id) (option : String) (now : Int64) :
    Same ((registry.deregister old).registry.register id new option now).registry
      ((registry.register id new option now).registry.deregister old).registry := by
  have departed := deregister_departed consistent old
  have stillElsewhere : ¬ (registry.deregister old).registry.IsOn id new.id :=
    fun on => elsewhere ((departed.isOn_iff id new.id).mp on).1
  have movedAfter :=
    (register_moved (consistent.deregister old) stillElsewhere option now).2.2
  have moved := (register_moved consistent elsewhere option now).2.2
  have departedAfter := deregister_departed (consistent.register id new option now) old
  have onNew : ∀ other, (registry.deregister old).registry.IsOn other new.id ↔
      registry.IsOn other new.id := by
    intro other
    rw [departed.isOn_iff]
    exact and_iff_left apart
  have onOld : ∀ other, (registry.register id new option now).registry.IsOn other old.id ↔
      id ≠ other ∧ registry.IsOn other old.id := by
    intro other
    rw [moved.isOn_iff]
    by_cases itself : id = other <;> simp [itself, apart.symm]
  refine Same.of_lookups ?_ ?_ ?_ ?_
  · intro other
    rw [movedAfter.clients, departedAfter.clients, departed.clients, moved.clients]
    simp only [onNew, onOld]
    by_cases itself : id = other
    · simp [itself]
    · by_cases onIt : registry.IsOn other new.id <;> simp [itself, onIt]
  · intro key
    rw [movedAfter.owners, departedAfter.owners, departed.owners, moved.owners]
    simp only [departed.isOn_iff]
    by_cases isNew : new.id = key
    · simp [← isNew, apart]
    · by_cases isOld : old.id = key <;> simp [isNew, isOld]
  · intro other
    rw [movedAfter.idleMarks, departedAfter.idleMarks, departed.idleMarks, moved.idleMarks,
      departed.marksSet]
    simp only [onNew, onOld]
    by_cases itself : id = other
    · simp [itself]
    · by_cases onIt : registry.IsOn other new.id <;> simp [itself, onIt]
  · rw [movedAfter.marksSet, departedAfter.marksSet, departed.marksSet, moved.marksSet]

/-- A client that was on the old connection is on the new one in the end. -/
theorem deregister_register_moves (consistent : registry.Consistent) (apart : old.id ≠ new.id)
    (on : registry.IsOn id old.id) (option : String) (now : Int64) :
    ((registry.deregister old).registry.register id new option now).registry.HasMoved id old new
      option := by
  have departed := deregister_departed consistent old
  have elsewhere : ¬ (registry.deregister old).registry.IsOn id new.id := by
    intro onNew
    exact apart (on.key_unique ((departed.isOn_iff id new.id).mp onNew).1)
  have moved := (register_moved (consistent.deregister old) elsewhere option now).2.2
  refine ⟨?_, ?_, ?_⟩
  · rw [get?, moved.clients, if_pos rfl]
  · rw [lookup, moved.owners, if_pos rfl]
  · rw [lookup, moved.owners, if_neg apart.symm, departed.owners, if_pos rfl, ite_self]

end

/-- After any calls, the end of one connection and a registration on another one leave the same
clients with the same bindings and options, the same index and the same marks, whichever of the two
comes first. A client that came back from the one connection on the other is there either way. -/
theorem disconnect_late_or_early (calls : List RegistryCall) (id : ClientId) (old new : Connection)
    (apart : old.id ≠ new.id) (option : String) (now : Int64) :
    let registry := after calls
    let early := ((registry.deregister old).registry.register id new option now).registry
    let late := ((registry.register id new option now).registry.deregister old).registry
    Same early late ∧
      (registry.IsOn id old.id →
        early.HasMoved id old new option ∧ late.HasMoved id old new option) := by
  intro registry early late
  have consistent : registry.Consistent := consistent_after calls
  have same : Same early late := by
    by_cases there : registry.IsOn id new.id
    · exact .of_eq (deregister_register_same consistent apart there option now)
    · exact deregister_register_moved consistent apart there option now
  refine ⟨same, fun on => ?_⟩
  have moved : early.HasMoved id old new option :=
    deregister_register_moves consistent apart on option now
  exact ⟨moved, same.hasMoved moved⟩

/-- Three clients are online, two of them idle; one comes back on the connection of another one, and
its former connection ends. -/
def comeback : List RegistryCall :=
  [.register ⟨"u1"⟩ ⟨⟨"c1"⟩, "first"⟩ "a" 10, .register ⟨"u2"⟩ ⟨⟨"c2"⟩, "second"⟩ "b" 20,
    .register ⟨"u3"⟩ ⟨⟨"c3"⟩, "third"⟩ "" 30, .leaveIdle ⟨"u3"⟩]

theorem comeback_late_or_early :
    let old : Connection := ⟨⟨"c1"⟩, "first"⟩
    let new : Connection := ⟨⟨"c2"⟩, "second"⟩
    let early := (((after comeback).deregister old).registry.register ⟨"u1"⟩ new "c" 5).registry
    let late := (((after comeback).register ⟨"u1"⟩ new "c" 5).registry.deregister old).registry
    old.id ≠ new.id ∧ Same early late ∧ late.HasMoved ⟨"u1"⟩ old new "c" ∧
      late.clientIds = [⟨"u1"⟩, ⟨"u3"⟩] ∧ late.sortedIdle = [⟨"u1"⟩] := by
  intro old new early late
  have apart : old.id ≠ new.id := by decide
  have on : (after comeback).IsOn ⟨"u1"⟩ old.id := by decide +kernel
  obtain ⟨same, moved⟩ := disconnect_late_or_early comeback ⟨"u1"⟩ old new apart "c" 5
  exact ⟨apart, same, (moved on).2, by decide +kernel, by decide +kernel⟩

end ClientRegistry

end SocketGateway
