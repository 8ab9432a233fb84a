import SocketGateway.RoomRegistry

/-!
Contract: what each change of groups and rooms makes of the lookups.

Owns:
- groups after a client was added to one, removed from one, and removed from all;
- rooms after one was assigned or released, and after a client was removed;
- when an addition to a group, or a removal from it, answers that it had an effect;
- the groups of a client, in order;
- registries that hold the same, however their maps were built.

Does not own: which clients are added or removed.
-/

namespace SocketGateway.RoomRegistry

variable {registry : RoomRegistry} {id : ClientId}

/-! ### Adding to a group -/

theorem groups_addStaffer (registry : RoomRegistry) (group : String) (id : ClientId)
    (other : String) :
    (registry.addStaffer group id).2.groups[other]? =
      if group = other ∧ id ∉ registry.staffers other then some (registry.staffers other ++ [id])
      else registry.groups[other]? := by
  unfold addStaffer
  by_cases member : id ∈ registry.staffers group
  · have unchanged : ¬ (group = other ∧ id ∉ registry.staffers other) := by
      rintro ⟨rfl, notMember⟩
      exact notMember member
    simp [member, unchanged]
  · by_cases same : group = other
    · subst same
      simp [member]
    · simp [member, same, Std.TreeMap.getElem?_insert]

theorem assigned_addStaffer (registry : RoomRegistry) (group : String) (id : ClientId) :
    (registry.addStaffer group id).2.assigned = registry.assigned := by
  unfold addStaffer
  by_cases member : id ∈ registry.staffers group <;> simp [member]

theorem staffers_eq (registry : RoomRegistry) (group : String) :
    registry.staffers group = (registry.groups[group]?).getD [] := by
  rw [staffers, Std.TreeMap.getD_eq_getD_getElem?]

theorem mem_staffers_addStaffer (group : String) {other : String} {someone : ClientId} :
    someone ∈ (registry.addStaffer group id).2.staffers other ↔
      (group = other ∧ id = someone) ∨ someone ∈ registry.staffers other := by
  rw [staffers_eq, groups_addStaffer]
  by_cases added : group = other ∧ id ∉ registry.staffers other
  · simp [added, or_comm, eq_comm]
  · rw [if_neg added, ← staffers_eq]
    refine ⟨Or.inr, ?_⟩
    rintro (⟨sameGroup, rfl⟩ | before)
    · exact Decidable.byContradiction fun missing => added ⟨sameGroup, missing⟩
    · exact before

theorem staffers_addStaffer (registry : RoomRegistry) (group : String) (id : ClientId)
    (other : String) :
    (registry.addStaffer group id).2.staffers other =
      registry.staffers other ++
        if group = other ∧ id ∉ registry.staffers other then [id] else [] := by
  rw [staffers_eq, groups_addStaffer]
  split
  · rw [Option.getD_some]
  · rw [← staffers_eq, List.append_nil]

theorem addStaffer_eq_true {group : String} :
    (registry.addStaffer group id).1 = true ↔ id ∉ registry.staffers group := by
  unfold addStaffer
  by_cases member : id ∈ registry.staffers group <;> simp [member]

/-! ### Removing from a group -/

/-- A group that nobody is left in counts as empty. -/
theorem withoutMember_getD (id : ClientId) (members : List ClientId) :
    (withoutMember id members).getD [] = members.filter (· ≠ id) := by
  dsimp only [withoutMember]
  split
  · next nobody => rw [Option.getD_none, List.isEmpty_iff.mp nobody]
  · rw [Option.getD_some]

theorem filter_of_not_member {members : List ClientId} (notMember : id ∉ members) :
    members.filter (· ≠ id) = members := by
  rw [List.filter_eq_self]
  intro someone member
  rw [decide_eq_true_eq]
  rintro rfl
  exact notMember member

theorem withoutMember_concat (id : ClientId) (members : List ClientId) :
    withoutMember id (members ++ [id]) = withoutMember id members := by
  have nobody : [id].filter (· ≠ id) = [] := by simp
  rw [withoutMember, List.filter_append, nobody, List.append_nil, withoutMember]

private theorem bind_withoutMember_getD (id : ClientId) (members? : Option (List ClientId)) :
    (members?.bind (withoutMember id)).getD [] = (members?.getD []).filter (· ≠ id) := by
  cases members? with
  | none => rfl
  | some members => exact withoutMember_getD id members

/-- Whoever is taken out of a group leaves somebody, or no group. -/
theorem bind_withoutMember_ne_nil (id : ClientId) (members? : Option (List ClientId)) :
    members?.bind (withoutMember id) ≠ some [] := by
  cases members? <;> simp [withoutMember]

/-- Removing a client from one group does to this group what removing it altogether does. -/
theorem groups_removeStaffer (registry : RoomRegistry) (group : String) (id : ClientId)
    (other : String) :
    (registry.removeStaffer group id).2.groups[other]? =
      if group = other then registry.groups[other]?.bind (withoutMember id)
      else registry.groups[other]? := by
  unfold removeStaffer
  cases found : registry.groups[group]? with
  | none =>
    by_cases same : group = other
    · rw [if_pos same, ← same, found, Option.bind_none]
    · rw [if_neg same]
  | some members =>
    dsimp only
    by_cases same : group = other
    · subst same
      rw [if_pos rfl, found, Option.bind_some, withoutMember]
      by_cases nobody : (members.filter (· ≠ id)).isEmpty
      · rw [if_pos nobody, if_pos nobody, Std.TreeMap.getElem?_erase_self]
      · rw [if_neg nobody, if_neg nobody, Std.TreeMap.getElem?_insert_self]
    · rw [if_neg same]
      split
      · rw [Std.TreeMap.getElem?_erase]
        simp [same]
      · rw [Std.TreeMap.getElem?_insert]
        simp [same]

theorem assigned_removeStaffer (registry : RoomRegistry) (group : String) (id : ClientId) :
    (registry.removeStaffer group id).2.assigned = registry.assigned := by
  unfold removeStaffer
  cases registry.groups[group]? <;> rfl

theorem staffers_removeStaffer (registry : RoomRegistry) (group : String) (id : ClientId)
    (other : String) :
    (registry.removeStaffer group id).2.staffers other =
      if group = other then (registry.staffers other).filter (· ≠ id)
      else registry.staffers other := by
  rw [staffers_eq, groups_removeStaffer, staffers_eq]
  split
  · exact bind_withoutMember_getD id _
  · rfl

theorem removeStaffer_eq_true {group : String} :
    (registry.removeStaffer group id).1 = true ↔ id ∈ registry.staffers group := by
  rw [staffers_eq]
  unfold removeStaffer
  cases registry.groups[group]? with
  | none => simp
  | some members =>
    rw [Option.getD_some]
    dsimp only
    rw [decide_eq_true_eq, Ne, List.length_filter_eq_length_iff]
    simp

/-! ### Assigning a room, and taking it away -/

theorem roomOf_assignRoom (target room other : String) :
    (registry.assignRoom target room).2.roomOf other =
      if target = other then some room else registry.roomOf other := by
  simp [assignRoom, roomOf, Std.TreeMap.getElem?_insert]

theorem groups_assignRoom (target room : String) :
    (registry.assignRoom target room).2.groups = registry.groups := rfl

theorem roomOf_release (target other : String) :
    (registry.release target).2.roomOf other =
      if target = other then none else registry.roomOf other := by
  simp [release, roomOf, Std.TreeMap.getElem?_erase]

/-! ### Removing a client -/

theorem groups_removeClient (registry : RoomRegistry) (id : ClientId) (group : String) :
    (registry.removeClient id).groups[group]? =
      registry.groups[group]?.bind (withoutMember id) := by
  rw [removeClient, Std.TreeMap.getElem?_filterMap']

theorem roomOf_removeClient (target : String) :
    (registry.removeClient id).roomOf target =
      if id.text = target then none else registry.roomOf target := by
  simp [removeClient, roomOf, Std.TreeMap.getElem?_erase]

theorem staffers_removeClient (registry : RoomRegistry) (id : ClientId) (group : String) :
    (registry.removeClient id).staffers group = (registry.staffers group).filter (· ≠ id) := by
  rw [staffers_eq, groups_removeClient, staffers_eq]
  exact bind_withoutMember_getD id _

theorem mem_staffers_removeClient {group : String} {someone : ClientId} :
    someone ∈ (registry.removeClient id).staffers group ↔
      someone ≠ id ∧ someone ∈ registry.staffers group := by
  rw [staffers_removeClient, List.mem_filter, decide_eq_true_eq, and_comm]

/-! ### The groups of a client -/

theorem mem_groupsOf {group : String} :
    group ∈ registry.groupsOf id ↔ id ∈ registry.staffers group := by
  simp only [groupsOf, List.mem_map, List.mem_filter, Prod.exists, exists_and_right,
    exists_eq_right, Std.TreeMap.mem_toList_iff_getElem?_eq_some, decide_eq_true_eq, staffers_eq]
  cases registry.groups[group]? <;> simp

theorem sorted_groupsOf (registry : RoomRegistry) (id : ClientId) :
    (registry.groupsOf id).Pairwise (· < ·) := by
  refine List.pairwise_map.mpr (List.Pairwise.filter _ ?_)
  refine Std.TreeMap.ordered_keys_toList.imp ?_
  intro left right before
  exact compareOfLessAndEq_eq_lt.mp before

/-! ### The same groups and rooms -/

/-- Both hold the same groups in the same order, and the same rooms. -/
structure Same (left right : RoomRegistry) : Prop where
  groups : ∀ group : String, left.groups[group]? = right.groups[group]?
  rooms : ∀ target : String, left.roomOf target = right.roomOf target

theorem Same.staffers {left right : RoomRegistry} (same : Same left right) (group : String) :
    left.staffers group = right.staffers group := by
  rw [staffers_eq, staffers_eq, same.groups]

theorem Same.refl (registry : RoomRegistry) : Same registry registry :=
  ⟨fun _ => rfl, fun _ => rfl⟩

theorem Same.symm {left right : RoomRegistry} (same : Same left right) : Same right left :=
  ⟨fun group => (same.groups group).symm, fun target => (same.rooms target).symm⟩

theorem Same.trans {left middle right : RoomRegistry} (first : Same left middle)
    (second : Same middle right) : Same left right :=
  ⟨fun group => (first.groups group).trans (second.groups group),
    fun target => (first.rooms target).trans (second.rooms target)⟩

end SocketGateway.RoomRegistry
