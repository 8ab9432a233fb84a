import Mathlib.Data.List.Induction
import SocketGateway.Proofs.History
import SocketGateway.Proofs.Rooms.Lookups

/-!
Contract: groups and rooms after any row of calls.

Owns:
- the calls that change groups and rooms;
- who is in a group, in which order, and since which call;
- which room a target has, and since which call;
- that no group is kept empty;
- what the calls answer, and what is left when a client is removed.

Does not own: who makes these calls.
-/

namespace SocketGateway

inductive RoomCall where
  | addStaffer (group : String) (id : ClientId)
  | removeStaffer (group : String) (id : ClientId)
  | assignRoom (target room : String)
  | release (target : String)
  | removeClient (id : ClientId)
deriving DecidableEq, Repr

namespace RoomCall

/-- The client is not in the group after the call, even if it was before. -/
def expels (group : String) (id : ClientId) : RoomCall → Bool
  | .removeStaffer other someone => other = group ∧ someone = id
  | .removeClient someone => someone = id
  | _ => false

/-- The target does not have the same room since, unless it is assigned anew. -/
def Reassigns (target : String) : RoomCall → Prop
  | .assignRoom other _ => other = target
  | .release other => other = target
  | .removeClient id => id.text = target
  | _ => False

end RoomCall

namespace RoomRegistry

/-- The registry after a call. -/
def perform (registry : RoomRegistry) : RoomCall → RoomRegistry
  | .addStaffer group id => (registry.addStaffer group id).2
  | .removeStaffer group id => (registry.removeStaffer group id).2
  | .assignRoom target room => (registry.assignRoom target room).2
  | .release target => (registry.release target).2
  | .removeClient id => registry.removeClient id

/-- The registry after these calls on an empty one. -/
def after (calls : List RoomCall) : RoomRegistry := calls.foldl perform {}

/-- By the calls, the client is in the group: one of them adds it, and none after that expels it. -/
def Belongs (calls : List RoomCall) (group : String) (id : ClientId) : Prop :=
  ∃ earlier, Since (fun _ call => call = .addStaffer group id)
    (fun call => call.expels group id = true) calls earlier

/-- After these earlier calls, by which the client was not in the group, it was added to it, and no
call expelled it since. -/
def Joined (calls : List RoomCall) (group : String) (id : ClientId) (earlier : List RoomCall) :
    Prop :=
  Since (fun earlier call => call = .addStaffer group id ∧ ¬ Belongs earlier group id)
    (fun call => call.expels group id = true) calls earlier

/-- The last room that was assigned to the target, if nothing took it away since. -/
def Assigned (calls : List RoomCall) (target room : String) : Prop :=
  ∃ earlier, Since (fun _ call => call = .assignRoom target room) (RoomCall.Reassigns target)
    calls earlier

/-- Each client joined the group before the next one did. -/
def InOrderOfJoining (calls : List RoomCall) (group : String) (members : List ClientId) : Prop :=
  members.Pairwise fun left right => ∀ earlier later, Joined calls group left earlier →
    Joined calls group right later → earlier.length < later.length

variable {registry : RoomRegistry} {calls : List RoomCall} {call : RoomCall} {group : String}
  {id : ClientId} {earlier : List RoomCall}

theorem after_concat (calls : List RoomCall) (call : RoomCall) :
    after (calls ++ [call]) = (after calls).perform call := by
  simp [after]

/-! ### One call -/

/-- Those who come into a group by a call. -/
def newcomers (registry : RoomRegistry) (group : String) : RoomCall → List ClientId
  | .addStaffer other id => if other = group ∧ id ∉ registry.staffers group then [id] else []
  | _ => []

/-- Those who are expelled leave a group, the others keep their order, and newcomers are last. -/
theorem staffers_perform (registry : RoomRegistry) (call : RoomCall) (group : String) :
    (registry.perform call).staffers group =
      (registry.staffers group).filter (fun id => !call.expels group id) ++
        registry.newcomers group call := by
  have nobody : ∀ members : List ClientId, members.filter (fun _ => true) = members :=
    fun members => List.filter_eq_self.mpr fun _ _ => rfl
  cases call with
  | addStaffer other id => simp [perform, staffers_addStaffer, RoomCall.expels, newcomers, nobody]
  | removeStaffer other id =>
    rw [perform, staffers_removeStaffer]
    by_cases same : other = group <;> simp [same, RoomCall.expels, newcomers, nobody, eq_comm]
  | assignRoom target room =>
    simp [perform, staffers, groups_assignRoom, RoomCall.expels, newcomers, nobody]
  | release target => simp [perform, staffers, release, RoomCall.expels, newcomers, nobody]
  | removeClient id => simp [perform, staffers_removeClient, RoomCall.expels, newcomers, eq_comm]

private theorem mem_newcomers :
    id ∈ registry.newcomers group call ↔
      call = .addStaffer group id ∧ id ∉ registry.staffers group := by
  cases call with
  | addStaffer other someone =>
    rw [newcomers]
    split
    · next isNew =>
      obtain ⟨rfl, notMember⟩ := isNew
      simp only [List.mem_singleton, RoomCall.addStaffer.injEq, true_and]
      constructor
      · rintro rfl
        exact ⟨rfl, notMember⟩
      · rintro ⟨rfl, -⟩
        rfl
    · next notNew =>
      simp only [List.not_mem_nil, RoomCall.addStaffer.injEq, false_iff]
      rintro ⟨⟨rfl, rfl⟩, notMember⟩
      exact notNew ⟨rfl, notMember⟩
  | removeStaffer | assignRoom | release | removeClient => simp [newcomers]

/-- A member stays unless the call expels it, and whoever the call adds is a member after it. -/
theorem mem_staffers_perform :
    id ∈ (registry.perform call).staffers group ↔
      call = .addStaffer group id ∨
        (id ∈ registry.staffers group ∧ ¬ call.expels group id = true) := by
  rw [staffers_perform, List.mem_append, List.mem_filter, Bool.not_eq_true', Bool.not_eq_true,
    mem_newcomers]
  by_cases added : call = .addStaffer group id
  · subst added
    by_cases member : id ∈ registry.staffers group <;> simp [member, RoomCall.expels]
  · simp [added]

/-- Nobody comes into a group together with another. -/
theorem pairwise_newcomers (relation : ClientId → ClientId → Prop) (registry : RoomRegistry)
    (group : String) (call : RoomCall) : (registry.newcomers group call).Pairwise relation := by
  cases call with
  | addStaffer other someone =>
    rw [newcomers]
    split
    · exact List.pairwise_singleton _ _
    · exact List.Pairwise.nil
  | removeStaffer | assignRoom | release | removeClient => exact List.Pairwise.nil

/-- What was assigned by the call, or else what the target had if it keeps it. -/
theorem roomOf_perform (target room : String) :
    (registry.perform call).roomOf target = some room ↔
      call = .assignRoom target room ∨
        (registry.roomOf target = some room ∧ ¬ call.Reassigns target) := by
  cases call with
  | addStaffer group id =>
    rw [perform, roomOf, assigned_addStaffer, ← roomOf]
    simp [RoomCall.Reassigns]
  | removeStaffer group id =>
    rw [perform, roomOf, assigned_removeStaffer, ← roomOf]
    simp [RoomCall.Reassigns]
  | assignRoom other another =>
    rw [perform, roomOf_assignRoom]
    by_cases same : other = target <;> simp [same, RoomCall.Reassigns]
  | release other =>
    rw [perform, roomOf_release]
    by_cases same : other = target <;> simp [same, RoomCall.Reassigns]
  | removeClient id =>
    rw [perform, roomOf_removeClient]
    by_cases same : id.text = target <;> simp [same, RoomCall.Reassigns]

/-- No group is kept empty. -/
def Peopled (registry : RoomRegistry) : Prop := ∀ group : String, registry.groups[group]? ≠ some []

theorem Peopled.perform (peopled : registry.Peopled) (call : RoomCall) :
    (registry.perform call).Peopled := by
  intro group
  cases call with
  | addStaffer other id =>
    rw [RoomRegistry.perform, groups_addStaffer]
    split
    · simp
    · exact peopled group
  | removeStaffer other id =>
    rw [RoomRegistry.perform, groups_removeStaffer]
    split
    · exact bind_withoutMember_ne_nil id _
    · exact peopled group
  | assignRoom target room => exact peopled group
  | release target => exact peopled group
  | removeClient id =>
    rw [RoomRegistry.perform, groups_removeClient]
    exact bind_withoutMember_ne_nil id _

/-! ### Rows of calls -/

theorem peopled_after (calls : List RoomCall) : (after calls).Peopled := by
  induction calls using List.reverseRecOn with
  | nil => simp [Peopled, after]
  | append_singleton calls call inductionHypothesis =>
    rw [after_concat]
    exact inductionHypothesis.perform call

/-- The members of a group are those who belong to it by the calls. -/
theorem mem_staffers_after :
    id ∈ (after calls).staffers group ↔ Belongs calls group id := by
  induction calls using List.reverseRecOn with
  | nil => simp [after, staffers_eq, Belongs, not_since_nil]
  | append_singleton calls call inductionHypothesis =>
    unfold Belongs at inductionHypothesis ⊢
    rw [after_concat, mem_staffers_perform, exists_since_concat, inductionHypothesis]

/-- Whoever is in a group joined it at one of the calls. -/
theorem belongs_iff_joined : Belongs calls group id ↔ ∃ earlier, Joined calls group id earlier := by
  induction calls using List.reverseRecOn with
  | nil => simp [Belongs, Joined, not_since_nil]
  | append_singleton calls call inductionHypothesis =>
    rw [Belongs, exists_since_concat, ← Belongs]
    unfold Joined at inductionHypothesis ⊢
    rw [exists_since_concat, ← inductionHypothesis]
    by_cases added : call = .addStaffer group id
    · subst added
      by_cases belongs : Belongs calls group id <;> simp [belongs, RoomCall.expels]
    · simp [added]

/-- Every member joined, at an addition that was answered with true. -/
theorem joined_of_mem (member : id ∈ (after calls).staffers group) :
    ∃ earlier, Joined calls group id earlier ∧
      ((after earlier).addStaffer group id).1 = true := by
  obtain ⟨earlier, joined⟩ := belongs_iff_joined.mp (mem_staffers_after.mp member)
  have absent : ¬ Belongs earlier group id := by
    obtain ⟨call, later, -, ⟨-, absent⟩, -⟩ := joined
    exact absent
  refine ⟨earlier, joined, ?_⟩
  rwa [addStaffer_eq_true, mem_staffers_after]

/-- A member that is not expelled joined when it did before, -/
theorem Joined.of_concat (joined : Joined (calls ++ [call]) group id earlier)
    (member : id ∈ (after calls).staffers group) : Joined calls group id earlier := by
  rcases since_concat.mp joined with ⟨-, -, absent⟩ | ⟨before, -⟩
  · exact absurd (mem_staffers_after.mp member) absent
  · exact before

/-- and a newcomer joined by the last call. -/
theorem Joined.of_newcomer (joined : Joined (calls ++ [call]) group id earlier)
    (isNew : id ∈ (after calls).newcomers group call) : earlier = calls := by
  rcases since_concat.mp joined with ⟨same, -⟩ | ⟨before, -⟩
  · exact same
  · have belongs := mem_staffers_after.mpr (belongs_iff_joined.mpr ⟨earlier, before⟩)
    exact absurd belongs (mem_newcomers.mp isNew).2

theorem inOrder_after (calls : List RoomCall) (group : String) :
    InOrderOfJoining calls group ((after calls).staffers group) := by
  induction calls using List.reverseRecOn with
  | nil => simp [after, staffers_eq, InOrderOfJoining]
  | append_singleton calls call inductionHypothesis =>
    rw [after_concat, staffers_perform, InOrderOfJoining, List.pairwise_append]
    refine ⟨?_, ?_, ?_⟩
    · refine (inductionHypothesis.filter _).imp_of_mem ?_
      intro left right leftStays rightStays inOrder first second joinedLeft joinedRight
      exact inOrder first second (joinedLeft.of_concat (List.mem_filter.mp leftStays).1)
        (joinedRight.of_concat (List.mem_filter.mp rightStays).1)
    · exact pairwise_newcomers _ _ group call
    · intro left leftStays right isNew first second joinedLeft joinedRight
      have before := joinedLeft.of_concat (List.mem_filter.mp leftStays).1
      rw [joinedRight.of_newcomer isNew]
      exact before.length_lt

theorem nodup_staffers_after (calls : List RoomCall) (group : String) :
    ((after calls).staffers group).Nodup := by
  refine (inOrder_after calls group).imp_of_mem ?_
  rintro left right member - inOrder rfl
  obtain ⟨earlier, joined, -⟩ := joined_of_mem member
  exact Nat.lt_irrefl _ (inOrder earlier earlier joined joined)

theorem roomOf_after {target room : String} :
    (after calls).roomOf target = some room ↔ Assigned calls target room := by
  induction calls using List.reverseRecOn with
  | nil => simp [after, roomOf, Assigned, not_since_nil]
  | append_singleton calls call inductionHypothesis =>
    unfold Assigned at inductionHypothesis ⊢
    rw [after_concat, roomOf_perform, inductionHypothesis, exists_since_concat]

/-! ### Answers -/

/-- The same clients are in the same groups. -/
def SameMembers (left right : RoomRegistry) : Prop :=
  ∀ (group : String) (id : ClientId), id ∈ left.staffers group ↔ id ∈ right.staffers group

theorem addStaffer_changes (registry : RoomRegistry) (group : String) (id : ClientId) :
    (registry.addStaffer group id).1 = true ↔
      ¬ SameMembers registry (registry.addStaffer group id).2 := by
  rw [addStaffer_eq_true]
  constructor
  · intro notMember same
    exact notMember ((same group id).mpr ((mem_staffers_addStaffer group).mpr (Or.inl ⟨rfl, rfl⟩)))
  · intro differs member
    refine differs fun other someone => ?_
    rw [mem_staffers_addStaffer]
    refine ⟨Or.inr, ?_⟩
    rintro (⟨rfl, rfl⟩ | before)
    · exact member
    · exact before

theorem not_mem_staffers_removeStaffer :
    id ∉ (registry.removeStaffer group id).2.staffers group := by
  rw [staffers_removeStaffer, if_pos rfl]
  simp

theorem removeStaffer_changes (registry : RoomRegistry) (group : String) (id : ClientId) :
    (registry.removeStaffer group id).1 = true ↔
      ¬ SameMembers registry (registry.removeStaffer group id).2 := by
  rw [removeStaffer_eq_true]
  constructor
  · intro member same
    exact not_mem_staffers_removeStaffer ((same group id).mp member)
  · intro differs
    by_contra notMember
    refine differs fun other someone => ?_
    rw [staffers_removeStaffer]
    split
    · next sameGroup =>
      subst sameGroup
      rw [filter_of_not_member notMember]
    · rfl

/-! ### Removing a client -/

/-- A group without the client is kept as it is. -/
theorem Peopled.groups_removeClient (peopled : registry.Peopled)
    (notMember : id ∉ registry.staffers group) :
    (registry.removeClient id).groups[group]? = registry.groups[group]? := by
  rw [staffers_eq] at notMember
  rw [RoomRegistry.groups_removeClient]
  cases found : registry.groups[group]? with
  | none => rfl
  | some members =>
    rw [found, Option.getD_some] at notMember
    have somebody : members ≠ [] := by
      rintro rfl
      exact peopled group found
    rw [Option.bind_some, withoutMember, filter_of_not_member notMember, if_neg]
    rwa [List.isEmpty_iff]

/-- What a registry shows of the calls that were made on it. -/
structure Reflects (registry : RoomRegistry) (calls : List RoomCall) : Prop where
  distinct : ∀ group, (registry.staffers group).Nodup
  members : ∀ group id, id ∈ registry.staffers group ↔ Belongs calls group id
  /-- Every member joined at a call that was answered with true. -/
  joined : ∀ group, ∀ id ∈ registry.staffers group, ∃ earlier,
    Joined calls group id earlier ∧ ((after earlier).addStaffer group id).1 = true
  order : ∀ group, InOrderOfJoining calls group (registry.staffers group)
  groups : ∀ id group, group ∈ registry.groupsOf id ↔ id ∈ registry.staffers group
  sorted : ∀ id, (registry.groupsOf id).Pairwise (· < ·)
  peopled : registry.Peopled
  rooms : ∀ target room, registry.roomOf target = some room ↔ Assigned calls target room

/-- The calls on a registry do what they are asked for, and answer what they changed. -/
structure Answers (registry : RoomRegistry) : Prop where
  enters : ∀ group id, id ∈ (registry.addStaffer group id).2.staffers group
  added : ∀ group id, (registry.addStaffer group id).1 = true ↔ id ∉ registry.staffers group
  addedChanges : ∀ group id, (registry.addStaffer group id).1 = true ↔
    ¬ SameMembers registry (registry.addStaffer group id).2
  leaves : ∀ group id, id ∉ (registry.removeStaffer group id).2.staffers group
  removed : ∀ group id, (registry.removeStaffer group id).1 = true ↔ id ∈ registry.staffers group
  removedChanges : ∀ group id, (registry.removeStaffer group id).1 = true ↔
    ¬ SameMembers registry (registry.removeStaffer group id).2
  assigned : ∀ target room, (registry.assignRoom target room).1 = registry.roomOf target
  released : ∀ target, (registry.release target).1 = registry.roomOf target

/-- The client is gone from groups and rooms, and all else is as before. -/
structure Forgets (registry left : RoomRegistry) (id : ClientId) : Prop where
  gone : ∀ group, id ∉ left.staffers group
  order : ∀ group, left.staffers group = (registry.staffers group).filter (· ≠ id)
  groups : ∀ group, id ∉ registry.staffers group → left.groups[group]? = registry.groups[group]?
  roomless : left.roomOf id.text = none
  rooms : ∀ target, target ≠ id.text → left.roomOf target = registry.roomOf target

theorem Peopled.forgets (peopled : registry.Peopled) (id : ClientId) :
    Forgets registry (registry.removeClient id) id where
  gone group member := (mem_staffers_removeClient.mp member).1 rfl
  order := staffers_removeClient registry id
  groups _ notMember := peopled.groups_removeClient notMember
  roomless := by rw [roomOf_removeClient, if_pos rfl]
  rooms target isOther := by rw [roomOf_removeClient, if_neg isOther.symm]

/-- After any row of calls, a group has the clients that a call added to it and none expelled since,
in the order of the calls at which they joined, and a target has the room that it was assigned last,
unless that was taken from it since. An addition leaves the client in the group and a removal does
not, and both answer whether that changed anything. -/
theorem reflects_calls (calls : List RoomCall) :
    (after calls).Reflects calls ∧ (after calls).Answers ∧
      ∀ id, Forgets (after calls) ((after calls).removeClient id) id := by
  refine ⟨?_, ?_, (peopled_after calls).forgets⟩
  · exact {
      distinct := nodup_staffers_after calls
      members := fun _ _ => mem_staffers_after
      joined := fun _ _ => joined_of_mem
      order := inOrder_after calls
      groups := fun _ _ => mem_groupsOf
      sorted := sorted_groupsOf (after calls)
      peopled := peopled_after calls
      rooms := fun _ _ => roomOf_after }
  · exact {
      enters := fun group _ => (mem_staffers_addStaffer group).mpr (Or.inl ⟨rfl, rfl⟩)
      added := fun _ _ => addStaffer_eq_true
      addedChanges := addStaffer_changes (after calls)
      leaves := fun _ _ => not_mem_staffers_removeStaffer
      removed := fun _ _ => removeStaffer_eq_true
      removedChanges := removeStaffer_changes (after calls)
      assigned := fun _ _ => rfl
      released := fun _ => rfl }

/-- Whoever leaves a group and comes back is last. -/
example : (after [.addStaffer "booth" ⟨"alice"⟩, .addStaffer "booth" ⟨"bob"⟩,
    .removeStaffer "booth" ⟨"alice"⟩, .addStaffer "booth" ⟨"alice"⟩]).staffers "booth" =
      [⟨"bob"⟩, ⟨"alice"⟩] := by
  decide +kernel

end RoomRegistry

end SocketGateway
