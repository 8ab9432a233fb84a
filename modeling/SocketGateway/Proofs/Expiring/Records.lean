import Mathlib.Data.List.Perm.Subperm
import SocketGateway.Proofs.Expiring.Entries

/-!
Contract: what the records of an expiring map say about its entries, whatever the times of its use.

Owns:
- purging, evicting and making room as operations on the records in their order;
- that every entry has a record of its own, and that there are never more entries than fit;
- what an insertion may drop: entries that are over, and one more at most, if the map is full.

Does not own: which entry goes while time does not go back.
-/

namespace SocketGateway.ExpiringMap

variable {κ ν : Type} [Ord κ]

/-! ### Records -/

private theorem dropDue_records (now : Nat) (records : List (Insertion κ))
    (entries : Std.TreeMap κ (Held ν)) :
    (dropDue now records entries).1 = records.dropWhile fun record => record.deadline ≤ now := by
  induction records generalizing entries with
  | nil => rfl
  | cons record rest inductionHypothesis =>
    by_cases due : record.deadline ≤ now
    · simp [dropDue, due, inductionHypothesis]
    · simp [dropDue, due]

theorem records_purge (map : ExpiringMap κ ν) (now : Nat) :
    (map.purge now).records = map.records.dropWhile fun record => record.deadline ≤ now := by
  rw [(purge_eq map now).1, dropDue_records]

theorem records_purge_suffix (map : ExpiringMap κ ν) (now : Nat) :
    (map.purge now).records <:+ map.records := by
  rw [records_purge]
  exact List.dropWhile_suffix _

private theorem dropOldest_append (front back : List (Insertion κ))
    (entries : Std.TreeMap κ (Held ν)) :
    dropOldest (front ++ back) entries =
      match (dropOldest front entries :
        List (Insertion κ) × Std.TreeMap κ (Held ν) × Bool) with
      | (rest, left, true) => (rest ++ back, left, true)
      | (_, left, false) => dropOldest back left := by
  induction front with
  | nil => rfl
  | cons record rest inductionHypothesis =>
    by_cases current : isCurrent entries record = true
    · simp [dropOldest, current]
    · simp [dropOldest, current, inductionHypothesis]

/-- Evicting works on the records in their order. -/
theorem evictOldest_eq (map : ExpiringMap κ ν) :
    map.evictOldest.1.records = (dropOldest map.records map.entries).1 ∧
      map.evictOldest.1.entries = (dropOldest map.records map.entries).2.1 ∧
      map.evictOldest.2 = (dropOldest map.records map.entries).2.2 := by
  unfold evictOldest records Queue.toList
  rw [dropOldest_append]
  rcases dropOldest map.order.older map.entries with ⟨rest, left, _ | _⟩
  · simp [Queue.ofList]
  · simp

/-- The first current record goes, and those before it, which are not current. -/
theorem dropOldest_cases (records : List (Insertion κ)) (entries : Std.TreeMap κ (Held ν)) :
    (∃ skipped record rest, records = skipped ++ record :: rest ∧
      (∀ stale ∈ skipped, isCurrent entries stale = false) ∧ isCurrent entries record = true ∧
      dropOldest records entries = (rest, entries.erase record.key, true)) ∨
    ∀ stale ∈ records, isCurrent entries stale = false := by
  induction records with
  | nil => exact Or.inr fun stale isRecord => absurd isRecord List.not_mem_nil
  | cons record rest inductionHypothesis =>
    cases current : isCurrent entries record with
    | true => exact Or.inl ⟨[], record, rest, rfl, by simp, current, by simp [dropOldest, current]⟩
    | false =>
      rcases inductionHypothesis with ⟨skipped, first, others, rfl, stale, isFirst, dropped⟩ | stale
      · refine Or.inl ⟨record :: skipped, first, others, rfl, ?_, isFirst, ?_⟩
        · exact List.forall_mem_cons.mpr ⟨current, stale⟩
        · simp [dropOldest, current, dropped]
      · exact Or.inr (List.forall_mem_cons.mpr ⟨current, stale⟩)

/-- The map into which an insertion puts its entry. -/
def roomFor (map : ExpiringMap κ ν) (key : κ) (now : Nat) : ExpiringMap κ ν :=
  makeRoom key ((map.purge now).entries.size + 1) (map.purge now)

theorem insert_eq (map : ExpiringMap κ ν) (key : κ) (value : ν) (now : Nat) :
    map.insert key value now =
      { map.roomFor key now with
        entries := (map.roomFor key now).entries.insert key ⟨value, now + map.ttl⟩
        order := (map.roomFor key now).order.push ⟨key, now + map.ttl⟩ } :=
  rfl

/-- The record of an insertion comes last. -/
theorem records_insert (map : ExpiringMap κ ν) (key : κ) (value : ν) (now : Nat) :
    (map.insert key value now).records =
      (map.roomFor key now).records ++ [⟨key, now + map.ttl⟩] :=
  Queue.toList_push _ _

section Settings

variable (map : ExpiringMap κ ν) (now : Nat)

@[simp]
theorem ttl_purge : (map.purge now).ttl = map.ttl := by
  unfold purge
  split <;> rfl

@[simp]
theorem capacity_purge : (map.purge now).capacity = map.capacity := by
  unfold purge
  split <;> rfl

@[simp]
private theorem ttl_evictOldest : map.evictOldest.1.ttl = map.ttl := by
  unfold evictOldest
  split <;> rfl

@[simp]
private theorem capacity_evictOldest : map.evictOldest.1.capacity = map.capacity := by
  unfold evictOldest
  split <;> rfl

theorem settings_makeRoom (key : κ) (limit : Nat) (map : ExpiringMap κ ν) :
    (makeRoom key limit map).ttl = map.ttl ∧ (makeRoom key limit map).capacity = map.capacity := by
  induction limit generalizing map with
  | zero => exact ⟨rfl, rfl⟩
  | succ limit inductionHypothesis =>
    have ttl := ttl_evictOldest map
    have capacity := capacity_evictOldest map
    unfold makeRoom
    split
    · split
      · next smaller evicted =>
        rw [evicted] at ttl capacity
        rw [(inductionHypothesis smaller).1, (inductionHypothesis smaller).2]
        exact ⟨ttl, capacity⟩
      · next same evicted =>
        rw [evicted] at ttl capacity
        exact ⟨ttl, capacity⟩
    · exact ⟨rfl, rfl⟩

@[simp]
theorem ttl_roomFor (key : κ) : (map.roomFor key now).ttl = map.ttl :=
  (settings_makeRoom key _ _).1.trans (ttl_purge map now)

@[simp]
theorem capacity_roomFor (key : κ) : (map.roomFor key now).capacity = map.capacity :=
  (settings_makeRoom key _ _).2.trans (capacity_purge map now)

end Settings

private theorem dropDue_dropDue {now later : Nat} (forward : now ≤ later)
    (records : List (Insertion κ)) (entries : Std.TreeMap κ (Held ν)) :
    dropDue later (dropDue now records entries).1 (dropDue now records entries).2 =
      dropDue later records entries := by
  induction records generalizing entries with
  | nil => rfl
  | cons record rest inductionHypothesis =>
    by_cases due : record.deadline ≤ now
    · simp [dropDue, due, Nat.le_trans due forward, inductionHypothesis]
    · rw [dropDue, if_neg due]

/-- Once the older records are all over, the newer ones take their place. -/
theorem purge_of_older {map : ExpiringMap κ ν} {now : Nat} {left : Std.TreeMap κ (Held ν)}
    (overdue : dropDue now map.order.older map.entries = ([], left)) :
    map.purge now =
      { map with
        entries := (dropDue now map.order.newerReversed.reverse left).2
        order := .ofList (dropDue now map.order.newerReversed.reverse left).1 } := by
  unfold purge
  rw [overdue]

private theorem purge_ofList (map : ExpiringMap κ ν) (records : List (Insertion κ)) (now : Nat) :
    { map with order := .ofList records }.purge now =
      { map with
        entries := (dropDue now records map.entries).2
        order := .ofList (dropDue now records map.entries).1 } := by
  unfold purge
  dsimp only [Queue.ofList]
  cases dropDue now records map.entries with
  | mk rest left => cases rest <;> rfl

/-- Whoever purges later need not have purged before. -/
theorem purge_purge (map : ExpiringMap κ ν) {now later : Nat} (forward : now ≤ later) :
    (map.purge now).purge later = map.purge later := by
  have older := dropDue_dropDue forward map.order.older map.entries
  cases first : dropDue now map.order.older map.entries with
  | mk left entries =>
    rw [first] at older
    cases left with
    | cons record rest =>
      have once : map.purge now =
          { map with entries := entries, order := { map.order with older := record :: rest } } := by
        unfold purge
        rw [first]
      rw [once, purge, older, purge]
    | nil =>
      rw [purge_of_older first, purge_of_older older.symm]
      refine (purge_ofList { map with entries := _ } _ later).trans ?_
      dsimp only
      rw [dropDue_dropDue forward]

/-! ### Records and entries -/

theorem isCurrent_iff {entries : Std.TreeMap κ (Held ν)} {record : Insertion κ} :
    isCurrent entries record = true ↔
      ∃ held, entries[record.key]? = some held ∧ held.deadline = record.deadline := by
  unfold isCurrent
  cases entries[record.key]? <;> simp

/-- Every entry has a record of its own. -/
def Recorded (entries : Std.TreeMap κ (Held ν)) (records : List (Insertion κ)) : Prop :=
  ∀ (key : κ) (held : Held ν), entries[key]? = some held → ⟨key, held.deadline⟩ ∈ records

/-- If the records before some record are stale, the record of every entry is that one, or comes
after it. -/
theorem Recorded.of_stale {entries : Std.TreeMap κ (Held ν)} {skipped rest : List (Insertion κ)}
    {record : Insertion κ} (recorded : Recorded entries (skipped ++ record :: rest))
    (stale : ∀ earlier ∈ skipped, isCurrent entries earlier = false) {key : κ} {held : Held ν}
    (found : entries[key]? = some held) :
    record = ⟨key, held.deadline⟩ ∨ ⟨key, held.deadline⟩ ∈ rest := by
  rcases List.mem_append.mp (recorded key held found) with isSkipped | isLeft
  · have isStale := stale _ isSkipped
    rw [isCurrent_iff.mpr ⟨held, found, rfl⟩] at isStale
    cases isStale
  · exact (List.mem_cons.mp isLeft).imp_left Eq.symm

/-- The record is the first one of a map that is not stale. -/
def IsFirst (map : ExpiringMap κ ν) (record : Insertion κ) (rest : List (Insertion κ)) : Prop :=
  ∃ skipped, map.records = skipped ++ record :: rest ∧
    (∀ stale ∈ skipped, isCurrent map.entries stale = false) ∧ isCurrent map.entries record = true

/-- Every entry has a record of its own, and there are no more entries than fit. -/
structure Sized (map : ExpiringMap κ ν) : Prop where
  recorded : Recorded map.entries map.records
  positive : 0 < map.capacity
  bounded : map.entries.size ≤ map.capacity

private theorem le_size_of_isFullFor {map : ExpiringMap κ ν} {key : κ}
    (full : map.isFullFor key = true) : map.capacity ≤ map.entries.size := by
  rw [isFullFor, Bool.and_eq_true, decide_eq_true_eq] at full
  exact full.1

theorem makeRoom_free {map : ExpiringMap κ ν} {key : κ} (free : map.isFullFor key = false)
    (limit : Nat) : makeRoom key limit map = map := by
  cases limit with
  | zero => rfl
  | succ limit => simp [makeRoom, free]

variable [Std.TransOrd κ]

theorem IsFirst.contains {map : ExpiringMap κ ν} {record : Insertion κ}
    {rest : List (Insertion κ)} (first : map.IsFirst record rest) :
    map.entries.contains record.key = true := by
  obtain ⟨skipped, -, -, current⟩ := first
  obtain ⟨held, found, -⟩ := isCurrent_iff.mp current
  rw [Std.TreeMap.contains_eq_isSome_getElem?, found]
  rfl

theorem sized_new (ttl capacity : Nat) :
    (ExpiringMap.new ttl capacity : ExpiringMap κ ν).Sized where
  recorded := by simp [new, Recorded]
  positive := Nat.lt_of_lt_of_le Nat.one_pos (Nat.le_max_left 1 capacity)
  bounded := by simp [new]

variable [Std.LawfulEqOrd κ]

private theorem size_le_of_mem {smaller larger : Std.TreeMap κ (Held ν)}
    (fewer : ∀ key ∈ smaller, key ∈ larger) : smaller.size ≤ larger.size := by
  have keys : smaller.keys ⊆ larger.keys := by
    intro key isKey
    exact Std.TreeMap.mem_keys.mpr (fewer key (Std.TreeMap.mem_keys.mp isKey))
  have length := (Std.TreeMap.nodup_keys.subperm keys).length_le
  rwa [Std.TreeMap.length_keys, Std.TreeMap.length_keys] at length

theorem size_le_of_within {smaller larger : Std.TreeMap κ (Held ν)}
    (within : Within smaller larger) : smaller.size ≤ larger.size := by
  apply size_le_of_mem
  intro key isKept
  rw [Std.TreeMap.mem_iff_isSome_getElem?] at isKept ⊢
  obtain ⟨held, found⟩ := Option.isSome_iff_exists.mp isKept
  exact Option.isSome_iff_exists.mpr ⟨held, within key held found⟩

theorem getElem?_dropRecorded {entries : Std.TreeMap κ (Held ν)} {record : Insertion κ} {key : κ}
    {held : Held ν} :
    (dropRecorded entries record)[key]? = some held ↔
      entries[key]? = some held ∧ record ≠ ⟨key, held.deadline⟩ := by
  rcases record with ⟨named, deadline⟩
  unfold dropRecorded
  by_cases current : isCurrent entries ⟨named, deadline⟩ = true
  · obtain ⟨present, found, sameDeadline⟩ := isCurrent_iff.mp current
    dsimp only at found sameDeadline
    rw [if_pos current, Std.TreeMap.getElem?_erase]
    by_cases same : named = key
    · subst same
      simp only [Std.ReflCmp.compare_self, ↓reduceIte, found, Option.some.injEq, ne_eq,
        Insertion.mk.injEq, true_and, reduceCtorEq, false_iff, not_and, not_not]
      rintro rfl
      exact sameDeadline.symm
    · simp [same]
  · rw [if_neg current]
    refine ⟨fun found => ⟨found, ?_⟩, And.left⟩
    rintro isRecord
    cases isRecord
    exact current (isCurrent_iff.mpr ⟨held, found, rfl⟩)

/-- A record that is taken takes no entry but its own. -/
theorem recorded_dropDue (now : Nat) {records : List (Insertion κ)}
    {entries : Std.TreeMap κ (Held ν)} (recorded : Recorded entries records) :
    Recorded (dropDue now records entries).2 (dropDue now records entries).1 := by
  induction records generalizing entries with
  | nil => exact recorded
  | cons record rest inductionHypothesis =>
    by_cases due : record.deadline ≤ now
    · rw [dropDue, if_pos due]
      apply inductionHypothesis
      intro key held found
      obtain ⟨before, notThis⟩ := getElem?_dropRecorded.mp found
      exact (List.mem_cons.mp (recorded key held before)).resolve_left fun isThis =>
        notThis isThis.symm
    · rw [dropDue, if_neg due]
      exact recorded

/-- What is dropped is over. -/
theorem over_of_dropDue {now : Nat} {records : List (Insertion κ)}
    {entries : Std.TreeMap κ (Held ν)} {key : κ} {held : Held ν}
    (found : entries[key]? = some held)
    (dropped : (dropDue now records entries).2[key]? ≠ some held) : held.deadline ≤ now := by
  induction records generalizing entries with
  | nil => exact absurd found dropped
  | cons record rest inductionHypothesis =>
    by_cases due : record.deadline ≤ now
    · rw [dropDue, if_pos due] at dropped
      by_cases isThis : record = ⟨key, held.deadline⟩
      · rw [isThis] at due
        exact due
      · exact inductionHypothesis (getElem?_dropRecorded.mpr ⟨found, isThis⟩) dropped
    · rw [dropDue, if_neg due] at dropped
      exact absurd found dropped

/-- Purging keeps an entry, or the entry is over. -/
theorem kept_or_over {map : ExpiringMap κ ν} {key : κ} {held : Held ν} (now : Nat)
    (found : map.entries[key]? = some held) :
    (map.purge now).entries[key]? = some held ∨ held.deadline ≤ now := by
  rw [(purge_eq map now).2]
  by_cases kept : (dropDue now map.records map.entries).2[key]? = some held
  · exact Or.inl kept
  · exact Or.inr (over_of_dropDue found kept)

theorem getElem?_insert_of_ne {map : ExpiringMap κ ν} {key other : κ} (different : other ≠ key)
    {value : ν} {now : Nat} :
    (map.insert key value now).entries[other]? = (map.roomFor key now).entries[other]? := by
  rw [insert_eq, Std.TreeMap.getElem?_insert, if_neg]
  rw [Std.LawfulEqCmp.compare_eq_iff_eq]
  exact different.symm

section Sized

variable {map : ExpiringMap κ ν}

theorem Sized.purge (sized : map.Sized) (now : Nat) : (map.purge now).Sized where
  recorded := by
    rw [(purge_eq map now).1, (purge_eq map now).2]
    exact recorded_dropDue now sized.recorded
  positive := by
    rw [capacity_purge]
    exact sized.positive
  bounded := by
    rw [capacity_purge]
    exact Nat.le_trans (size_le_of_within (purge_within map now)) sized.bounded

theorem Sized.take (sized : map.Sized) (key : κ) (now : Nat) : (map.take key now).2.Sized where
  recorded other held found := by
    simp only [ExpiringMap.take, Std.TreeMap.getElem?_erase] at found
    split at found
    · cases found
    · exact (sized.purge now).recorded other held found
  positive := (sized.purge now).positive
  bounded := Nat.le_trans Std.TreeMap.size_erase_le (sized.purge now).bounded

/-! ### Making room -/

/-- Evicting drops the entry of the first record that is not stale. -/
theorem Sized.evictOldest (sized : map.Sized) {present : κ} (isPresent : present ∈ map.entries) :
    ∃ record rest, map.IsFirst record rest ∧ map.evictOldest.2 = true ∧
      map.evictOldest.1.entries = map.entries.erase record.key ∧
      map.evictOldest.1.records = rest ∧ map.evictOldest.1.Sized := by
  obtain ⟨sameRecords, sameEntries, sameAnswer⟩ := evictOldest_eq map
  rcases dropOldest_cases map.records map.entries with
    ⟨skipped, record, rest, split, stale, isFirst, dropped⟩ | stale
  · rw [dropped] at sameRecords sameEntries sameAnswer
    have recorded := sized.recorded
    rw [split] at recorded
    refine ⟨record, rest, ⟨skipped, split, stale, isFirst⟩, sameAnswer, sameEntries, sameRecords,
      ?_, ?_, ?_⟩
    · intro key held isKept
      rw [sameEntries, Std.TreeMap.getElem?_erase] at isKept
      rw [sameRecords]
      split at isKept
      · cases isKept
      · next different =>
        refine (recorded.of_stale stale isKept).resolve_left ?_
        rintro rfl
        exact different Std.ReflOrd.compare_self
    · rw [capacity_evictOldest]
      exact sized.positive
    · rw [sameEntries, capacity_evictOldest]
      exact Nat.le_trans Std.TreeMap.size_erase_le sized.bounded
  · -- a map with an entry has a current record
    rw [Std.TreeMap.mem_iff_isSome_getElem?] at isPresent
    obtain ⟨held, found⟩ := Option.isSome_iff_exists.mp isPresent
    have isStale := stale _ (sized.recorded present held found)
    rw [isCurrent_iff.mpr ⟨held, found, rfl⟩] at isStale
    cases isStale

omit [Std.LawfulEqOrd κ] in
theorem Sized.exists_mem_of_full (sized : map.Sized) {key : κ} (full : map.isFullFor key = true) :
    ∃ present, present ∈ map.entries := by
  have positive := sized.positive
  have capacity := le_size_of_isFullFor full
  have notEmpty : map.entries.isEmpty = false := by
    rw [Std.TreeMap.isEmpty_eq_size_eq_zero, beq_eq_false_iff_ne]
    omega
  exact Std.TreeMap.isEmpty_eq_false_iff_exists_mem.mp notEmpty

/-- A map that is full for a key has room for it after one eviction. -/
theorem Sized.makeRoom_full (sized : map.Sized) {key : κ} (full : map.isFullFor key = true) :
    ∃ record rest, map.IsFirst record rest ∧
      (makeRoom key (map.entries.size + 1) map).entries = map.entries.erase record.key ∧
      (makeRoom key (map.entries.size + 1) map).records = rest ∧
      (makeRoom key (map.entries.size + 1) map).isFullFor key = false ∧
      (makeRoom key (map.entries.size + 1) map).Sized := by
  have positive := sized.positive
  have bounded := sized.bounded
  have capacity := le_size_of_isFullFor full
  obtain ⟨present, isPresent⟩ := sized.exists_mem_of_full full
  obtain ⟨record, rest, first, found, entries, records, smaller⟩ := sized.evictOldest isPresent
  have room : map.evictOldest.1.isFullFor key = false := by
    rw [isFullFor, capacity_evictOldest, entries, Std.TreeMap.size_erase, if_pos first.contains,
      Bool.and_eq_false_iff]
    left
    exact decide_eq_false (by omega)
  have once : makeRoom key (map.entries.size + 1) map = map.evictOldest.1 := by
    obtain ⟨size, isSize⟩ : ∃ size, map.entries.size = size + 1 :=
      ⟨map.entries.size - 1, by omega⟩
    rw [isSize, makeRoom, if_pos full]
    cases evicted : map.evictOldest with
    | mk left answer =>
      rw [evicted] at found room
      dsimp only at found room
      subst found
      simp [makeRoom, room]
  rw [once]
  exact ⟨record, rest, first, entries, records, room, smaller⟩

theorem Sized.makeRoom (sized : map.Sized) (key : κ) :
    (makeRoom key (map.entries.size + 1) map).isFullFor key = false ∧
      (makeRoom key (map.entries.size + 1) map).Sized := by
  cases full : map.isFullFor key with
  | true =>
    obtain ⟨record, rest, -, -, -, room, roomy⟩ := sized.makeRoom_full full
    exact ⟨room, roomy⟩
  | false =>
    rw [makeRoom_free full]
    exact ⟨full, sized⟩

/-- An insertion that finds room drops nothing but what purging drops; one that does not also drops
the entry of the first record that is not stale, with the records up to that one. -/
theorem Sized.roomFor_cases (sized : map.Sized) (key : κ) (now : Nat) :
    ((map.purge now).isFullFor key = false ∧ map.roomFor key now = map.purge now) ∨
    ((map.purge now).isFullFor key = true ∧ ∃ record rest, (map.purge now).IsFirst record rest ∧
      (map.roomFor key now).entries = (map.purge now).entries.erase record.key ∧
      (map.roomFor key now).records = rest) := by
  cases full : (map.purge now).isFullFor key with
  | false => exact Or.inl ⟨rfl, makeRoom_free full _⟩
  | true =>
    obtain ⟨record, rest, first, entries, records, -, -⟩ := (sized.purge now).makeRoom_full full
    exact Or.inr ⟨rfl, record, rest, first, entries, records⟩

/-- What is left of the records once there is room are the latest of them. -/
theorem Sized.records_roomFor (sized : map.Sized) (key : κ) (now : Nat) :
    (map.roomFor key now).records <:+ (map.purge now).records := by
  rcases sized.roomFor_cases key now with ⟨-, same⟩ | ⟨-, record, rest, first, -, left⟩
  · simp only [same, List.suffix_rfl]
  · obtain ⟨skipped, split, -, -⟩ := first
    rw [left, split]
    exact (List.suffix_cons record rest).trans (List.suffix_append skipped _)

theorem Sized.insert (sized : map.Sized) (key : κ) (value : ν) (now : Nat) :
    (map.insert key value now).Sized := by
  obtain ⟨room, roomy⟩ := (sized.purge now).makeRoom key
  rw [← roomFor] at room roomy
  rw [insert_eq]
  refine ⟨?_, roomy.positive, ?_⟩
  · intro other held found
    rw [records, Queue.toList_push, List.mem_append, List.mem_singleton]
    simp only [Std.TreeMap.getElem?_insert] at found
    split at found
    · next same =>
      cases found
      exact Or.inr (by rw [Std.LawfulEqOrd.eq_of_compare same])
    · exact Or.inl (roomy.recorded other held found)
  · have bounded := roomy.bounded
    rw [isFullFor, Bool.and_eq_false_iff, decide_eq_false_iff_not, Bool.not_eq_false',
      Std.TreeMap.contains_iff_mem] at room
    dsimp only
    rw [Std.TreeMap.size_insert]
    split
    · exact bounded
    · next absent =>
      have free := room.resolve_right absent
      omega

/-- An insertion drops entries that are over, and one more at most: if the map was full, the one of
the first record that is not stale. -/
theorem Sized.dropped_of_insert (sized : map.Sized) (key : κ) (value : ν) (now : Nat) :
    ∃ victim? : Option (Insertion κ),
      (∀ victim, victim? = some victim →
        map.capacity ≤ map.entries.size ∧ ∃ rest, (map.purge now).IsFirst victim rest) ∧
      ∀ (other : κ) (held : Held ν), other ≠ key → map.entries[other]? = some held →
        (map.insert key value now).entries[other]? = some held ∨ held.deadline ≤ now ∨
          ∃ victim, victim? = some victim ∧ victim.key = other := by
  rcases sized.roomFor_cases key now with ⟨-, roomy⟩ | ⟨full, record, rest, first, entries, -⟩
  · refine ⟨none, nofun, ?_⟩
    intro other held different found
    rw [getElem?_insert_of_ne different, roomy]
    exact (kept_or_over now found).imp_right Or.inl
  · refine ⟨some record, ?_, ?_⟩
    · rintro victim ⟨⟩
      refine ⟨?_, rest, first⟩
      calc map.capacity
        _ = (map.purge now).capacity := (capacity_purge map now).symm
        _ ≤ (map.purge now).entries.size := le_size_of_isFullFor full
        _ ≤ map.entries.size := size_le_of_within (purge_within map now)
    · intro other held different found
      rw [getElem?_insert_of_ne different, entries, Std.TreeMap.getElem?_erase]
      by_cases isVictim : record.key = other
      · exact Or.inr (Or.inr ⟨record, rfl, isVictim⟩)
      · rw [if_neg (by rwa [Std.LawfulEqCmp.compare_eq_iff_eq])]
        exact (kept_or_over now found).imp_right Or.inl

end Sized

end SocketGateway.ExpiringMap
