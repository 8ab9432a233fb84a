import Mathlib.Data.List.Induction
import SocketGateway.Proofs.Rooms.Lookups

/-!
Contract: what an application records about one client in the groups and rooms.

Owns:
- updates, which add the client to a group or assign it a room, and rows of them;
- the groups and the room of the client after a row of updates;
- that removing the client forgets whatever was recorded about it before, and nothing else;
- when the updates after a removal make up for those before it.

Does not own: when updates are made.
-/

namespace SocketGateway

/-- What is recorded about a client that came online. -/
inductive RoomUpdate where
  | addStaffer (group : String)
  | assignRoom (room : String)
deriving DecidableEq, Repr

namespace RoomUpdate

def apply (id : ClientId) (rooms : RoomRegistry) : RoomUpdate → RoomRegistry
  | .addStaffer group => (rooms.addStaffer group id).2
  | .assignRoom room => (rooms.assignRoom id.text room).2

def applyAll (id : ClientId) (updates : List RoomUpdate) (rooms : RoomRegistry) : RoomRegistry :=
  updates.foldl (apply id) rooms

def room? : RoomUpdate → Option String
  | .addStaffer _ => none
  | .assignRoom room => some room

/-- The room that the last assignment of a row leaves. -/
def lastRoom (updates : List RoomUpdate) : Option String := (updates.filterMap room?).getLast?

/-- Later updates repeat the groups of earlier ones, and assign a room if those did. -/
structure Repeats (earlier later : List RoomUpdate) : Prop where
  groups : ∀ group, addStaffer group ∈ earlier → addStaffer group ∈ later
  rooms : ∀ room, assignRoom room ∈ earlier → ∃ another, assignRoom another ∈ later

variable {id : ClientId} {updates : List RoomUpdate} {rooms : RoomRegistry}

theorem applyAll_append (id : ClientId) (first second : List RoomUpdate) (rooms : RoomRegistry) :
    applyAll id (first ++ second) rooms = applyAll id second (applyAll id first rooms) :=
  List.foldl_append

private theorem applyAll_concat (id : ClientId) (updates : List RoomUpdate) (update : RoomUpdate)
    (rooms : RoomRegistry) :
    applyAll id (updates ++ [update]) rooms = update.apply id (applyAll id updates rooms) := by
  rw [applyAll_append]
  rfl

/-! ### Lookups after a row of updates -/

/-- The client comes last in each group to which it was added, unless it was there before. -/
theorem groups_applyAll (id : ClientId) (updates : List RoomUpdate) (rooms : RoomRegistry)
    (group : String) :
    (applyAll id updates rooms).groups[group]? =
      if addStaffer group ∈ updates ∧ id ∉ rooms.staffers group then
        some (rooms.staffers group ++ [id])
      else rooms.groups[group]? := by
  induction updates using List.reverseRecOn with
  | nil => simp [applyAll]
  | append_singleton updates update inductionHypothesis =>
    rw [applyAll_concat]
    cases update with
    | assignRoom room =>
      rw [apply, RoomRegistry.groups_assignRoom, inductionHypothesis]
      simp
    | addStaffer added =>
      rw [apply, RoomRegistry.groups_addStaffer, RoomRegistry.staffers_eq, inductionHypothesis]
      by_cases member : id ∈ rooms.staffers group
      · simp [member, ← RoomRegistry.staffers_eq]
      · by_cases before : addStaffer group ∈ updates
        · simp [member, before]
        · simp [member, before, ← RoomRegistry.staffers_eq, eq_comm]

theorem mem_staffers_applyAll (group : String) :
    id ∈ (applyAll id updates rooms).staffers group ↔
      addStaffer group ∈ updates ∨ id ∈ rooms.staffers group := by
  rw [RoomRegistry.staffers_eq, groups_applyAll]
  by_cases member : id ∈ rooms.staffers group
  · simp [member, ← RoomRegistry.staffers_eq]
  · by_cases added : addStaffer group ∈ updates
    · simp [member, added]
    · simp [member, added, ← RoomRegistry.staffers_eq]

theorem roomOf_applyAll (id : ClientId) (updates : List RoomUpdate) (rooms : RoomRegistry)
    (target : String) :
    (applyAll id updates rooms).roomOf target =
      if id.text = target then (lastRoom updates).or (rooms.roomOf target)
      else rooms.roomOf target := by
  induction updates using List.reverseRecOn with
  | nil => simp [applyAll, lastRoom]
  | append_singleton updates update inductionHypothesis =>
    rw [applyAll_concat]
    cases update with
    | addStaffer group =>
      have sameRooms : ∀ registry : RoomRegistry,
          (apply id registry (.addStaffer group)).roomOf target = registry.roomOf target := by
        intro registry
        rw [RoomRegistry.roomOf, apply, RoomRegistry.assigned_addStaffer, RoomRegistry.roomOf]
      rw [sameRooms, inductionHypothesis]
      simp [lastRoom, room?]
    | assignRoom room =>
      rw [apply, RoomRegistry.roomOf_assignRoom, inductionHypothesis]
      by_cases same : id.text = target
      · simp [same, lastRoom, room?]
      · simp [same]

private theorem lastRoom_isSome :
    (lastRoom updates).isSome ↔ ∃ room, assignRoom room ∈ updates := by
  have isAssignment : ∀ update : RoomUpdate, ∀ room,
      update.room? = some room ↔ update = assignRoom room := by
    intro update room
    cases update <;> simp [room?]
  rw [lastRoom, List.getLast?_isSome, Ne, List.filterMap_eq_nil_iff]
  simp only [← Option.not_isSome_iff_eq_none, Option.isSome_iff_exists, isAssignment]
  simp

private theorem lastRoom_append (earlier later : List RoomUpdate) :
    lastRoom (earlier ++ later) = (lastRoom later).or (lastRoom earlier) := by
  simp [lastRoom, List.getLast?_append]

/-! ### Removing the client -/

/-- Removing a client forgets the updates that concern it. -/
theorem removeClient_applyAll (id : ClientId) (updates : List RoomUpdate) (rooms : RoomRegistry) :
    RoomRegistry.Same ((applyAll id updates rooms).removeClient id) (rooms.removeClient id) where
  groups group := by
    rw [RoomRegistry.groups_removeClient, groups_applyAll, RoomRegistry.groups_removeClient]
    split
    · rw [RoomRegistry.staffers_eq]
      cases rooms.groups[group]? with
      | none => exact RoomRegistry.withoutMember_concat id []
      | some members => exact RoomRegistry.withoutMember_concat id members
    · rfl
  rooms target := by
    rw [RoomRegistry.roomOf_removeClient, RoomRegistry.roomOf_removeClient, roomOf_applyAll]
    by_cases same : id.text = target <;> simp [same]

theorem applyAll_same {left right : RoomRegistry} (same : RoomRegistry.Same left right)
    (id : ClientId) (updates : List RoomUpdate) :
    RoomRegistry.Same (applyAll id updates left) (applyAll id updates right) where
  groups group := by rw [groups_applyAll, groups_applyAll, same.staffers, same.groups]
  rooms target := by rw [roomOf_applyAll, roomOf_applyAll, same.rooms]

/-- Once a client is removed, later updates that repeat the earlier ones leave what all leave. -/
theorem Repeats.same {earlier later : List RoomUpdate} (repeats : Repeats earlier later)
    (rooms : RoomRegistry) :
    RoomRegistry.Same (applyAll id later rooms) (applyAll id (earlier ++ later) rooms) where
  groups group := by
    have repeated : addStaffer group ∈ earlier ++ later ↔ addStaffer group ∈ later := by
      rw [List.mem_append]
      exact or_iff_right_of_imp (repeats.groups group)
    simp only [groups_applyAll, repeated]
  rooms target := by
    rw [roomOf_applyAll, roomOf_applyAll, lastRoom_append]
    cases found : lastRoom later with
    | some room => rfl
    | none =>
      have noneEarlier : lastRoom earlier = none := by
        rw [← Option.not_isSome_iff_eq_none, lastRoom_isSome]
        rintro ⟨room, assigned⟩
        have isLater := lastRoom_isSome.mpr (repeats.rooms room assigned)
        rw [found] at isLater
        cases isLater
      rw [noneEarlier]
      rfl

/-- Wherever a removed client ends up with the groups and the room of all updates, the later ones
repeat the earlier ones. `base` may hold groups and a room of the client already. -/
theorem Repeats.of_same {earlier later : List RoomUpdate} {base : RoomRegistry}
    (same : RoomRegistry.Same (applyAll id later (rooms.removeClient id))
      (applyAll id (earlier ++ later) base)) : Repeats earlier later where
  groups group added := by
    have member : id ∈ (applyAll id (earlier ++ later) base).staffers group :=
      (mem_staffers_applyAll group).mpr (Or.inl (List.mem_append_left later added))
    rw [← same.staffers, mem_staffers_applyAll, RoomRegistry.mem_staffers_removeClient] at member
    rcases member with isLater | ⟨notItself, -⟩
    · exact isLater
    · exact absurd rfl notItself
  rooms room assigned := by
    have hasRoom := same.rooms id.text
    rw [roomOf_applyAll, roomOf_applyAll, if_pos rfl, if_pos rfl, RoomRegistry.roomOf_removeClient,
      if_pos rfl, Option.or_none] at hasRoom
    rw [← lastRoom_isSome, hasRoom, Option.isSome_or, Bool.or_eq_true, lastRoom_isSome]
    exact Or.inl ⟨room, List.mem_append_left later assigned⟩

end RoomUpdate

end SocketGateway
