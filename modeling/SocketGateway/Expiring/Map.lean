import Std.Data.TreeMap
import SocketGateway.Expiring.Queue

/-!
Contract: maps whose entries expire a fixed time after they were inserted.

Owns:
- the entries, each with its deadline;
- the order of insertion, as records of key and deadline; a key that is inserted again leaves its
  older record behind, and a record counts only while the entry of its key has its deadline;
- purging at every access, and making room when the map is full.

Times are natural numbers of any unit. No call needs the time of an earlier one, and times may go
back. The sum of a time and a lifetime is taken to exist: what becomes of a deadline that no clock
can show is outside of the model.

Does not own: what the time is.
-/

namespace SocketGateway

/-- A value that is kept until its deadline. -/
structure Held (ν : Type) where
  value : ν
  deadline : Nat
deriving DecidableEq, Repr

/-- That a key was inserted with a deadline. -/
structure Insertion (κ : Type) where
  key : κ
  deadline : Nat
deriving DecidableEq, Repr

/-- A map with expiring entries. It never holds more than `capacity` of them; `new` makes that at
least one. -/
structure ExpiringMap (κ ν : Type) [Ord κ] where
  ttl : Nat
  capacity : Nat
  entries : Std.TreeMap κ (Held ν) := ∅
  order : Queue (Insertion κ) := {}

namespace ExpiringMap

variable {κ ν : Type} [Ord κ]

def new (ttl capacity : Nat) : ExpiringMap κ ν where
  ttl := ttl
  capacity := max 1 capacity

/-- Whether the entry of the record's key still has the record's deadline. -/
def isCurrent (entries : Std.TreeMap κ (Held ν)) (record : Insertion κ) : Bool :=
  match entries[record.key]? with
  | some held => held.deadline = record.deadline
  | none => false

def dropRecorded (entries : Std.TreeMap κ (Held ν)) (record : Insertion κ) :
    Std.TreeMap κ (Held ν) :=
  if isCurrent entries record then entries.erase record.key else entries

/-- Takes records from the front as long as their deadlines are over, and drops their entries. -/
def dropDue (now : Nat) :
    List (Insertion κ) → Std.TreeMap κ (Held ν) → List (Insertion κ) × Std.TreeMap κ (Held ν)
  | [], entries => ([], entries)
  | record :: rest, entries =>
    if record.deadline ≤ now then dropDue now rest (dropRecorded entries record)
    else (record :: rest, entries)

/-- Drops the entries whose deadlines are over, oldest record first, up to the first record that is
not due. -/
def purge (map : ExpiringMap κ ν) (now : Nat) : ExpiringMap κ ν :=
  match dropDue now map.order.older map.entries with
  | (record :: rest, entries) =>
    { map with entries := entries, order := { map.order with older := record :: rest } }
  | ([], entries) =>
    let (rest, entries) := dropDue now map.order.newerReversed.reverse entries
    { map with entries := entries, order := .ofList rest }

/-- Takes records from the front up to the first one whose entry is still current, and drops that
entry. The last component tells whether there was one. -/
def dropOldest :
    List (Insertion κ) → Std.TreeMap κ (Held ν) →
      List (Insertion κ) × Std.TreeMap κ (Held ν) × Bool
  | [], entries => ([], entries, false)
  | record :: rest, entries =>
    if isCurrent entries record then (rest, entries.erase record.key, true)
    else dropOldest rest entries

def evictOldest (map : ExpiringMap κ ν) : ExpiringMap κ ν × Bool :=
  match dropOldest map.order.older map.entries with
  | (rest, entries, true) =>
    ({ map with entries := entries, order := { map.order with older := rest } }, true)
  | (_, entries, false) =>
    let (rest, entries, found) := dropOldest map.order.newerReversed.reverse entries
    ({ map with entries := entries, order := .ofList rest }, found)

def isFullFor (map : ExpiringMap κ ν) (key : κ) : Bool :=
  map.capacity ≤ map.entries.size && !map.entries.contains key

/-- Evicts until `key` has room or no record is left. Every eviction but the last makes the map
smaller, so `limit` evictions are enough when it is at least the size. -/
def makeRoom (key : κ) : Nat → ExpiringMap κ ν → ExpiringMap κ ν
  | 0, map => map
  | limit + 1, map =>
    if map.isFullFor key then
      match map.evictOldest with
      | (smaller, true) => makeRoom key limit smaller
      | (same, false) => same
    else map

/-- Puts `value` under `key` until `now + ttl`. -/
def insert (map : ExpiringMap κ ν) (key : κ) (value : ν) (now : Nat) : ExpiringMap κ ν :=
  let purged := map.purge now
  -- every entry may have to go, and one round more finds that there is room
  let roomy := makeRoom key (purged.entries.size + 1) purged
  let deadline := now + map.ttl
  { roomy with
    entries := roomy.entries.insert key ⟨value, deadline⟩
    order := roomy.order.push ⟨key, deadline⟩ }

/-- The value under `key` as long as its entry was not dropped. -/
def find? (map : ExpiringMap κ ν) (key : κ) : Option ν :=
  map.entries[key]?.map Held.value

/-- Removes the entry of `key` after purging, and returns its value. -/
def take (map : ExpiringMap κ ν) (key : κ) (now : Nat) : Option ν × ExpiringMap κ ν :=
  let purged := map.purge now
  (purged.find? key, { purged with entries := purged.entries.erase key })

def contains (map : ExpiringMap κ ν) (key : κ) (now : Nat) : Bool × ExpiringMap κ ν :=
  let purged := map.purge now
  (purged.entries.contains key, purged)

/-- The number of entries, those included that expired since the last access. -/
def size (map : ExpiringMap κ ν) : Nat := map.entries.size

def isEmpty (map : ExpiringMap κ ν) : Bool := map.entries.isEmpty

def records (map : ExpiringMap κ ν) : List (Insertion κ) := map.order.toList

private theorem dropDue_append (now : Nat) (front back : List (Insertion κ))
    (entries : Std.TreeMap κ (Held ν)) :
    dropDue now (front ++ back) entries =
      match (dropDue now front entries : List (Insertion κ) × Std.TreeMap κ (Held ν)) with
      | (record :: rest, left) => (record :: rest ++ back, left)
      | ([], left) => dropDue now back left := by
  induction front generalizing entries with
  | nil => simp [dropDue]
  | cons record rest inductionHypothesis =>
    by_cases due : record.deadline ≤ now
    · simp [dropDue, due, inductionHypothesis]
    · simp [dropDue, due]

/-- Purging works on the records in their order. -/
theorem purge_eq (map : ExpiringMap κ ν) (now : Nat) :
    (map.purge now).records = (dropDue now map.records map.entries).1 ∧
      (map.purge now).entries = (dropDue now map.records map.entries).2 := by
  unfold purge records Queue.toList
  rw [dropDue_append]
  split
  · rename_i record rest left found
    simp
  · rename_i left found
    simp [Queue.ofList]

end ExpiringMap

end SocketGateway
