import Mathlib.Data.List.TakeWhile
import SocketGateway.Proofs.Expiring.Records

/-!
Contract: what the records of an expiring map say about its entries, while time does not go back.

Owns:
- order: the records are sorted by their deadlines;
- purging drops the entries whose deadlines are over, and no others, however many records were left
  behind by keys that were taken or inserted again;
- making room drops at most one entry, and only an oldest one.

Does not own: what callers make of expired entries, or times that go back.
-/

namespace SocketGateway.ExpiringMap

variable {κ ν : Type} [Ord κ]

/-- A map that was never used at a time after `now`. -/
structure Orderly (map : ExpiringMap κ ν) (now : Nat) : Prop where
  sorted : map.records.Pairwise fun earlier later => earlier.deadline ≤ later.deadline
  ahead : ∀ record ∈ map.records, record.deadline ≤ now + map.ttl
  recorded : Recorded map.entries map.records
  positive : 0 < map.capacity
  bounded : map.entries.size ≤ map.capacity

theorem Orderly.mono {map : ExpiringMap κ ν} {last now : Nat} (orderly : map.Orderly last)
    (forward : last ≤ now) : map.Orderly now :=
  { orderly with
    ahead := fun record isRecord =>
      Nat.le_trans (orderly.ahead record isRecord) (Nat.add_le_add_right forward _) }

theorem Orderly.sized {map : ExpiringMap κ ν} {now : Nat} (orderly : map.Orderly now) : map.Sized :=
  ⟨orderly.recorded, orderly.positive, orderly.bounded⟩

theorem Orderly.deadline_le {map : ExpiringMap κ ν} {last : Nat} (orderly : map.Orderly last)
    {key : κ} {held : Held ν}
    (found : map.entries[key]? = some held) : held.deadline ≤ last + map.ttl :=
  orderly.ahead _ (orderly.recorded key held found)

/-- No entry has an earlier deadline. -/
def IsOldest (entries : Std.TreeMap κ (Held ν)) (victim : κ) : Prop :=
  ∃ held, entries[victim]? = some held ∧
    ∀ (other : κ) (kept : Held ν), entries[other]? = some kept → held.deadline ≤ kept.deadline

/-- The first record that is not stale is the one of an oldest entry. -/
theorem Orderly.isOldest {map : ExpiringMap κ ν} {now : Nat} (orderly : map.Orderly now)
    {record : Insertion κ} {rest : List (Insertion κ)} (first : map.IsFirst record rest) :
    IsOldest map.entries record.key := by
  obtain ⟨skipped, split, stale, current⟩ := first
  obtain ⟨oldest, found, deadline⟩ := isCurrent_iff.mp current
  have sorted := orderly.sorted
  rw [split, List.pairwise_append, List.pairwise_cons] at sorted
  have recorded := orderly.recorded
  rw [split] at recorded
  refine ⟨oldest, found, ?_⟩
  intro other kept isKept
  rw [deadline]
  rcases recorded.of_stale stale isKept with rfl | isLater
  · exact Nat.le_refl _
  · exact sorted.2.1.1 _ isLater

variable [Std.TransOrd κ]

theorem orderly_new (ttl capacity : Nat) :
    (ExpiringMap.new ttl capacity : ExpiringMap κ ν).Orderly 0 where
  sorted := List.Pairwise.nil
  ahead := by simp [new, records, Queue.toList]
  recorded := (sized_new ttl capacity).recorded
  positive := (sized_new ttl capacity).positive
  bounded := (sized_new ttl capacity).bounded

variable [Std.LawfulEqOrd κ]

/-- Among sorted records, those that are due stand in front, and their entries go with them. -/
theorem getElem?_dropDue {now : Nat} {records : List (Insertion κ)}
    {entries : Std.TreeMap κ (Held ν)}
    (sorted : records.Pairwise fun earlier later => earlier.deadline ≤ later.deadline)
    (recorded : ∀ (key : κ) (held : Held ν), entries[key]? = some held → held.deadline ≤ now →
      ⟨key, held.deadline⟩ ∈ records) {key : κ} {held : Held ν} :
    (dropDue now records entries).2[key]? = some held ↔
      entries[key]? = some held ∧ now < held.deadline := by
  induction records generalizing entries with
  | nil =>
    refine ⟨fun found => ⟨found, ?_⟩, And.left⟩
    by_contra overdue
    exact List.not_mem_nil (recorded key held found (Nat.le_of_not_lt overdue))
  | cons record rest inductionHypothesis =>
    rw [List.pairwise_cons] at sorted
    by_cases due : record.deadline ≤ now
    · rw [dropDue, if_pos due, inductionHypothesis sorted.2, getElem?_dropRecorded]
      · constructor
        · rintro ⟨⟨found, -⟩, ahead⟩
          exact ⟨found, ahead⟩
        · rintro ⟨found, ahead⟩
          refine ⟨⟨found, ?_⟩, ahead⟩
          rintro rfl
          exact Nat.not_lt_of_le due ahead
      · intro key held found overdue
        obtain ⟨before, notThis⟩ := getElem?_dropRecorded.mp found
        exact (List.mem_cons.mp (recorded key held before overdue)).resolve_left fun isThis =>
          notThis isThis.symm
    · -- no record that follows is due, so no entry is
      rw [dropDue, if_neg due]
      refine ⟨fun found => ⟨found, ?_⟩, And.left⟩
      by_contra overdue
      rcases List.mem_cons.mp (recorded key held found (Nat.le_of_not_lt overdue)) with rfl | later
      · exact overdue (Nat.lt_of_not_le due)
      · exact due (Nat.le_trans (sorted.1 _ later) (Nat.le_of_not_lt overdue))

section Orderly

variable {map : ExpiringMap κ ν} {last now : Nat}

/-! ### Purging -/

theorem Orderly.getElem?_purge (orderly : map.Orderly last) (now : Nat) {key : κ} {held : Held ν} :
    (map.purge now).entries[key]? = some held ↔
      map.entries[key]? = some held ∧ now < held.deadline := by
  rw [(purge_eq map now).2]
  exact getElem?_dropDue orderly.sorted fun key held found _ => orderly.recorded key held found

theorem Orderly.purge (orderly : map.Orderly now) : (map.purge now).Orderly now where
  sorted := by
    rw [records_purge]
    exact orderly.sorted.sublist (List.dropWhile_sublist _)
  ahead record isRecord := by
    rw [records_purge] at isRecord
    rw [ttl_purge]
    exact orderly.ahead record ((List.dropWhile_sublist _).subset isRecord)
  recorded := (orderly.sized.purge now).recorded
  positive := (orderly.sized.purge now).positive
  bounded := (orderly.sized.purge now).bounded

theorem Orderly.take (orderly : map.Orderly now) (key : κ) :
    (map.take key now).2.Orderly now where
  sorted := orderly.purge.sorted
  ahead := orderly.purge.ahead
  recorded := (orderly.sized.take key now).recorded
  positive := (orderly.sized.take key now).positive
  bounded := (orderly.sized.take key now).bounded

/-! ### Making room -/

/-- All that comes of making room for a key in a map. -/
structure MakesRoom (key : κ) (now : Nat) (map roomy : ExpiringMap κ ν) : Prop where
  orderly : roomy.Orderly now
  room : roomy.isFullFor key = false
  dropped : (map.isFullFor key = false ∧ roomy.entries = map.entries) ∨
    (map.isFullFor key = true ∧ ∃ victim, IsOldest map.entries victim ∧
      roomy.entries = map.entries.erase victim)

theorem Orderly.makesRoom (orderly : map.Orderly now) (key : κ) :
    MakesRoom key now map (makeRoom key (map.entries.size + 1) map) := by
  cases full : map.isFullFor key with
  | false =>
    rw [makeRoom_free full]
    exact ⟨orderly, full, Or.inl ⟨full, rfl⟩⟩
  | true =>
    obtain ⟨record, rest, first, entries, records, room, roomy⟩ :=
      orderly.sized.makeRoom_full full
    refine ⟨?_, room, Or.inr ⟨full, record.key, orderly.isOldest first, entries⟩⟩
    obtain ⟨skipped, split, -, -⟩ := first
    have later : rest.Sublist map.records := by
      rw [split]
      exact (List.sublist_cons_self record rest).trans (List.sublist_append_right skipped _)
    constructor
    · rw [records]
      exact orderly.sorted.sublist later
    · intro kept isRecord
      rw [records] at isRecord
      rw [(settings_makeRoom key _ map).1]
      exact orderly.ahead kept (later.subset isRecord)
    · exact roomy.recorded
    · exact roomy.positive
    · exact roomy.bounded

/-! ### Inserting -/

theorem Orderly.roomFor (orderly : map.Orderly now) (key : κ) :
    MakesRoom key now (map.purge now) (map.roomFor key now) :=
  orderly.purge.makesRoom key

theorem Orderly.insert (orderly : map.Orderly now) (key : κ) (value : ν) :
    (map.insert key value now).Orderly now := by
  have roomy := orderly.roomFor key
  have ahead := roomy.orderly.ahead
  rw [ttl_roomFor] at ahead
  rw [insert_eq]
  constructor
  · rw [records, Queue.toList_push]
    refine List.pairwise_append.mpr ⟨roomy.orderly.sorted, List.pairwise_singleton _ _, ?_⟩
    intro earlier isRecord later isLast
    rw [List.mem_singleton.mp isLast]
    exact ahead earlier isRecord
  · intro record isRecord
    rw [records, Queue.toList_push, List.mem_append, List.mem_singleton] at isRecord
    dsimp only
    rw [ttl_roomFor]
    rcases isRecord with before | rfl
    · exact ahead record before
    · exact Nat.le_refl _
  · exact (orderly.sized.insert key value now).recorded
  · exact (orderly.sized.insert key value now).positive
  · exact (orderly.sized.insert key value now).bounded

end Orderly

end SocketGateway.ExpiringMap
