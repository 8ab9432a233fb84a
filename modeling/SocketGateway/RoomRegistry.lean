import Std.Data.TreeMap
import SocketGateway.Identity

/-!
Contract: the groups that clients staff, and the rooms assigned to targets.

Owns:
- groups of clients, each in the order in which they joined and without repetition; an empty group
  is not kept;
- one room for each target that has one; targets are named by texts, and a client is the target of
  its id's text;
- removing a client from all of them.

Does not own: which clients are online.
-/

namespace SocketGateway

structure RoomRegistry where
  groups : Std.TreeMap String (List ClientId) := ∅
  assigned : Std.TreeMap String String := ∅

namespace RoomRegistry

/-- The clients of a group, in the order in which they were added. -/
def staffers (registry : RoomRegistry) (group : String) : List ClientId :=
  registry.groups.getD group []

/-- Adds a client at the end of a group, unless it is a member already; tells whether it did. -/
def addStaffer (registry : RoomRegistry) (group : String) (id : ClientId) :
    Bool × RoomRegistry :=
  let members := registry.staffers group
  if id ∈ members then (false, registry)
  else (true, { registry with groups := registry.groups.insert group (members ++ [id]) })

/-- Removes a client from a group; tells whether it was a member. -/
def removeStaffer (registry : RoomRegistry) (group : String) (id : ClientId) :
    Bool × RoomRegistry :=
  match registry.groups[group]? with
  | none => (false, registry)
  | some members =>
    let left := members.filter (· ≠ id)
    let groups :=
      if left.isEmpty then registry.groups.erase group else registry.groups.insert group left
    (left.length ≠ members.length, { registry with groups := groups })

/-- The groups of a client, in the order of their names. -/
def groupsOf (registry : RoomRegistry) (id : ClientId) : List String :=
  (registry.groups.toList.filter fun entry => id ∈ entry.2).map Prod.fst

def roomOf (registry : RoomRegistry) (target : String) : Option String :=
  registry.assigned[target]?

/-- Assigns a room to a target and returns the room it had before. -/
def assignRoom (registry : RoomRegistry) (target room : String) :
    Option String × RoomRegistry :=
  (registry.roomOf target, { registry with assigned := registry.assigned.insert target room })

/-- Takes the room of a target from it and returns it. -/
def release (registry : RoomRegistry) (target : String) : Option String × RoomRegistry :=
  (registry.roomOf target, { registry with assigned := registry.assigned.erase target })

/-- The members of a group without one client; nothing if no other is left. -/
def withoutMember (id : ClientId) (members : List ClientId) : Option (List ClientId) :=
  let left := members.filter (· ≠ id)
  if left.isEmpty then none else some left

/-- Removes a client from all groups, and takes its room from it. -/
def removeClient (registry : RoomRegistry) (id : ClientId) : RoomRegistry where
  groups := registry.groups.filterMap fun _ members => withoutMember id members
  assigned := registry.assigned.erase id.text

end RoomRegistry

end SocketGateway
