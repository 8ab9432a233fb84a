/-!
Contract: first-in first-out queues.

Owns:
- a queue as two lists, the older part in order and the newer part reversed;
- `toList`, which shows it oldest first, and what each operation does to that list.

Does not own: what is queued.
-/

namespace SocketGateway

structure Queue (α : Type) where
  older : List α := []
  newerReversed : List α := []

namespace Queue

variable {α : Type}

/-- The queued items, oldest first. -/
def toList (queue : Queue α) : List α := queue.older ++ queue.newerReversed.reverse

def push (queue : Queue α) (item : α) : Queue α :=
  { queue with newerReversed := item :: queue.newerReversed }

@[simp]
theorem toList_push (queue : Queue α) (item : α) :
    (queue.push item).toList = queue.toList ++ [item] := by
  simp [toList, push]

@[simp]
theorem toList_empty : ({} : Queue α).toList = [] := rfl

def ofList (items : List α) : Queue α := ⟨items, []⟩

@[simp]
theorem toList_ofList (items : List α) : (ofList items).toList = items := by
  simp [toList, ofList]

end Queue

end SocketGateway
