import SocketGateway.Proofs.Expiring.Insertions

/-!
Contract: which entry an insertion into a full map drops, in terms of the calls before it.

Owns:
- the order of the last insertions under two keys;
- that exactly one key is evicted, and that one of the insertions under it, made at the very time of
  its last one, came before the last insertions under all other keys;
- that the keys go in the order of their last insertions unless the last insertion under another key
  came between two insertions of the victim at one time.

Does not own: how long entries are kept while there is room.
-/

namespace SocketGateway

variable {κ ν : Type} {calls earlier : List (MapCall κ ν)} {key other : κ} {stamped : Stamped ν}

/-- The last insertion under one key came before the last one under the other. -/
def LastBefore (calls : List (MapCall κ ν)) (key other : κ) : Prop :=
  ∃ stamped earlier laterStamped later, LastInserted calls key stamped earlier ∧
    LastInserted calls other laterStamped later ∧ earlier.length < later.length

/-- The last insertion under the other key came between two insertions under the key, which were
made at the same time; the second of them is the last one. -/
def Straddles (calls : List (MapCall κ ν)) (key other : κ) : Prop :=
  ∃ first value stamped earlier between middle,
    first ++ [.insert key value stamped.since] <+: calls ∧ LastInserted calls key stamped earlier ∧
      LastInserted calls other between middle ∧ first.length < middle.length ∧
        middle.length < earlier.length

/-- No insertion under the key comes after the last one. -/
theorem LastInserted.le_of_inserts {before after : List (MapCall κ ν)} {call : MapCall κ ν}
    (last : LastInserted calls key stamped earlier) (split : calls = before ++ call :: after)
    (inserts : call.Inserts key) : before.length ≤ earlier.length :=
  Since.le_of_undoes last split inserts

theorem LastInserted.split (last : LastInserted calls key stamped earlier) :
    ∃ after, calls = earlier ++ .insert key stamped.value stamped.since :: after := by
  obtain ⟨call, after, split, rfl, -⟩ := last
  exact ⟨after, split⟩

/-- There is only one last insertion under a key. -/
theorem LastInserted.unique {twin : List (MapCall κ ν)} {twinStamped : Stamped ν}
    (last : LastInserted calls key stamped earlier)
    (twinLast : LastInserted calls key twinStamped twin) : earlier.length = twin.length := by
  obtain ⟨after, split⟩ := last.split
  obtain ⟨twinAfter, twinSplit⟩ := twinLast.split
  exact Nat.le_antisymm (twinLast.le_of_inserts split ⟨_, _, rfl⟩)
    (last.le_of_inserts twinSplit ⟨_, _, rfl⟩)

/-- No call is an insertion under two keys. -/
theorem LastInserted.length_ne {twin : List (MapCall κ ν)} {twinStamped : Stamped ν}
    (last : LastInserted calls key stamped earlier)
    (otherLast : LastInserted calls other twinStamped twin) (different : other ≠ key) :
    earlier.length ≠ twin.length := by
  intro same
  obtain ⟨after, split⟩ := last.split
  obtain ⟨twinAfter, twinSplit⟩ := otherLast.split
  obtain ⟨-, sameCall⟩ := List.append_inj (split.symm.trans twinSplit) same
  exact different (MapCall.insert.inj (List.cons.inj sameCall).1).1.symm

private theorem LastBefore.asymm (before : LastBefore calls key other) :
    ¬ LastBefore calls other key := by
  obtain ⟨_, earlier, _, later, last, otherLast, isBefore⟩ := before
  rintro ⟨_, twin, _, otherTwin, twinLast, otherTwinLast, isAfter⟩
  rw [last.unique otherTwinLast, otherLast.unique twinLast] at isBefore
  exact Nat.lt_asymm isBefore isAfter

private theorem Straddles.lastBefore (straddles : Straddles calls key other) :
    LastBefore calls other key := by
  obtain ⟨_, _, _, earlier, _, middle, -, last, otherLast, -, isBefore⟩ := straddles
  exact ⟨_, middle, _, earlier, otherLast, last, isBefore⟩

/-- What is recorded was inserted, and what is recorded later was inserted later. -/
theorem insertions_split {ttl : Nat} {front rest : List (Insertion κ)} {record : Insertion κ}
    (split : insertions ttl calls = front ++ record :: rest) :
    ∃ first value now later, calls = first ++ .insert record.key value now :: later ∧
      record.deadline = now + ttl ∧ insertions ttl later = rest := by
  obtain ⟨before, others, rfl, -, isRest⟩ := List.filterMap_eq_append_iff.mp split
  obtain ⟨silent, call, later, rfl, -, isRecord, isLater⟩ := List.filterMap_eq_cons_iff.mp isRest
  cases call with
  | insert key value now =>
    obtain rfl := Option.some.inj isRecord
    exact ⟨before ++ silent, value, now, later, by simp, rfl, isLater⟩
  | _ => cases isRecord

namespace ExpiringMap

variable [Ord κ]

/-- An insertion drops a key that is still in the map after purging. -/
def Evicts (map : ExpiringMap κ ν) (key : κ) (value : ν) (now : Nat) (victim : κ) : Prop :=
  victim ∈ (map.purge now).entries ∧ victim ∉ (map.insert key value now).entries

variable [Std.TransOrd κ] [Std.LawfulEqOrd κ]

/-- Nothing is evicted while there is room. -/
theorem Evicts.full {map : ExpiringMap κ ν} {key victim : κ} {value : ν} {now : Nat}
    (evicts : map.Evicts key value now victim) : (map.purge now).isFullFor key = true := by
  obtain ⟨isThere, gone⟩ := evicts
  by_contra free
  have roomy : map.roomFor key now = map.purge now := makeRoom_free (Bool.not_eq_true _ ▸ free) _
  by_cases same : victim = key
  · rw [same, insert_eq] at gone
    exact gone Std.TreeMap.mem_insert_self
  · rw [Std.TreeMap.mem_iff_isSome_getElem?, getElem?_insert_of_ne same, roomy,
      ← Std.TreeMap.mem_iff_isSome_getElem?] at gone
    exact gone isThere

/-- An insertion that finds the map full evicts one key, the one of the first record that is not
stale. -/
theorem Sized.evicts_iff {map : ExpiringMap κ ν} (sized : map.Sized) {key : κ} {now : Nat}
    (full : (map.purge now).isFullFor key = true) (value : ν) :
    ∃ record rest, (map.purge now).IsFirst record rest ∧
      ∀ other, map.Evicts key value now other ↔ other = record.key := by
  rcases sized.roomFor_cases key now with ⟨free, -⟩ | ⟨-, record, rest, first, entries, -⟩
  · rw [full] at free
    cases free
  · refine ⟨record, rest, first, ?_⟩
    have isThere := Std.TreeMap.contains_iff_mem.mp first.contains
    have absent : key ∉ (map.purge now).entries := by
      rw [isFullFor, Bool.and_eq_true, Bool.not_eq_true'] at full
      rw [← Std.TreeMap.contains_iff_mem, full.2]
      exact Bool.false_ne_true
    have left : ∀ other, other ∈ (map.insert key value now).entries ↔
        key = other ∨ record.key ≠ other ∧ other ∈ (map.purge now).entries := by
      intro other
      rw [insert_eq, Std.TreeMap.mem_insert, entries, Std.TreeMap.mem_erase,
        Std.LawfulEqCmp.compare_eq_iff_eq, ne_eq, ne_eq, Std.LawfulEqCmp.compare_eq_iff_eq]
    intro other
    rw [Evicts, left, not_or, not_and]
    constructor
    · rintro ⟨before, -, gone⟩
      by_contra different
      exact gone (Ne.symm different) before
    · rintro rfl
      exact ⟨isThere, fun same => absent (same ▸ isThere), fun different => absurd rfl different⟩

/-- Among the insertions under the key of the first record that is not stale, one made at the time
of the last one came before the last insertions under all other keys. -/
theorem standing_of_first (ttl capacity : Nat) {calls : List (MapCall κ ν)} {now : Nat}
    {record : Insertion κ} {rest : List (Insertion κ)}
    (first : ((afterCalls ttl capacity calls).purge now).IsFirst record rest) :
    ∃ first value stamped earlier, LastInserted calls record.key stamped earlier ∧
      first ++ [.insert record.key value stamped.since] <+: calls ∧
      ∀ other ∈ ((afterCalls ttl capacity calls).purge now).entries, other ≠ record.key →
        ∃ otherStamped later, LastInserted calls other otherStamped later ∧
          first.length < later.length := by
  obtain ⟨skipped, records, stale, current⟩ := first
  obtain ⟨held, found, deadline⟩ := isCurrent_iff.mp current
  have purged := purge_within (afterCalls ttl capacity calls) now
  obtain ⟨stamped, earlier, last, isHeld⟩ := lastInserted_of_entry ttl capacity (purged _ _ found)
  obtain ⟨gone, all⟩ := (records_purge_suffix (afterCalls ttl capacity calls) now).trans
    (records_suffix ttl capacity calls)
  rw [records, ← List.append_assoc] at all
  obtain ⟨first, value, time, after, split, recordDeadline, laterRecords⟩ :=
    insertions_split all.symm
  have sameTime : time = stamped.since := by
    rw [← isHeld, Stamped.held, recordDeadline] at deadline
    exact (Nat.add_right_cancel deadline).symm
  subst sameTime
  refine ⟨first, value, stamped, earlier, last, ⟨after, by simp [split]⟩, ?_⟩
  intro other isThere different
  obtain ⟨kept, isKept⟩ :=
    Option.isSome_iff_exists.mp (Std.TreeMap.mem_iff_isSome_getElem?.mp isThere)
  obtain ⟨otherStamped, later, otherLast, -⟩ :=
    lastInserted_of_entry ttl capacity (purged _ _ isKept)
  refine ⟨otherStamped, later, otherLast, ?_⟩
  have recorded := ((sized_afterCalls ttl capacity calls).purge now).recorded
  rw [records] at recorded
  rcases recorded.of_stale stale isKept with rfl | isLater
  · exact absurd rfl different
  · rw [← laterRecords] at isLater
    obtain ⟨before, others, isSplit⟩ := List.append_of_mem isLater
    obtain ⟨between, otherValue, otherTime, rest, rfl, -, -⟩ := insertions_split isSplit
    have again : calls = (first ++ .insert record.key value stamped.since :: between) ++
        .insert other otherValue otherTime :: rest := by
      rw [split, List.append_assoc, List.cons_append]
    have behind := otherLast.le_of_inserts again ⟨_, _, rfl⟩
    rw [List.length_append, List.length_cons] at behind
    omega

/-- An insertion that finds the map full evicts exactly one key. One of the insertions under it,
made at the very time of its last one, came before the last insertions under all other keys that are
still in the map. So the key with the earliest last insertion goes, unless the last insertion under
another key came between two insertions of the victim at one time. -/
theorem evicts_in_order_iff (ttl capacity : Nat) (calls : List (MapCall κ ν)) (key : κ) (value : ν)
    (now : Nat) (full : ((afterCalls ttl capacity calls).purge now).isFullFor key = true) :
    ∃ victim,
      (∀ other, (afterCalls ttl capacity calls).Evicts key value now other ↔ other = victim) ∧
      (∃ first early stamped earlier, LastInserted calls victim stamped earlier ∧
        first ++ [.insert victim early stamped.since] <+: calls ∧
        ∀ other ∈ ((afterCalls ttl capacity calls).purge now).entries, other ≠ victim →
          ∃ otherStamped later, LastInserted calls other otherStamped later ∧
            first.length < later.length) ∧
      ((∀ other ∈ ((afterCalls ttl capacity calls).purge now).entries, other ≠ victim →
          LastBefore calls victim other) ↔
        ∀ other ∈ ((afterCalls ttl capacity calls).purge now).entries, other ≠ victim →
          ¬ Straddles calls victim other) := by
  obtain ⟨record, rest, isFirst, evicts⟩ :=
    (sized_afterCalls ttl capacity calls).evicts_iff full value
  obtain ⟨first, early, stamped, earlier, last, isEarly, ahead⟩ :=
    standing_of_first ttl capacity isFirst
  refine ⟨record.key, evicts, ⟨first, early, stamped, earlier, last, isEarly, ahead⟩, ?_, ?_⟩
  · intro inOrder other isThere different straddles
    exact straddles.lastBefore.asymm (inOrder other isThere different)
  · intro noneBetween other isThere different
    obtain ⟨otherStamped, later, otherLast, isAhead⟩ := ahead other isThere different
    rcases Nat.lt_trichotomy earlier.length later.length with before | same | after
    · exact ⟨stamped, earlier, otherStamped, later, last, otherLast, before⟩
    · exact absurd same (last.length_ne otherLast different)
    · exact absurd ⟨first, early, stamped, earlier, otherStamped, later, isEarly, last, otherLast,
        isAhead, after⟩ (noneBetween other isThere different)

/-- One key is inserted again, later than another one. -/
def renewed : List (MapCall Nat String) := [.insert 1 "a" 0, .insert 2 "b" 1, .insert 1 "again" 2]

theorem renewed_evicts :
    ((afterCalls 9 2 renewed).purge 3).isFullFor 3 = true ∧
      (∀ other, (afterCalls 9 2 renewed).Evicts 3 "c" 3 other ↔ other = 2) ∧
      LastBefore renewed 2 1 := by
  have full : ((afterCalls 9 2 renewed).purge 3).isFullFor 3 = true := by decide +kernel
  obtain ⟨victim, evicts, -, inOrder⟩ := evicts_in_order_iff 9 2 renewed 3 "c" 3 full
  obtain rfl : 2 = victim := by
    rw [← evicts, Evicts]
    decide +kernel
  refine ⟨full, evicts, inOrder.mpr ?_ 1 (by decide +kernel) (by decide)⟩
  -- the key 2 is inserted only once, as the second of three calls
  rintro other - - ⟨first, -, stamped, earlier, -, middle, -, last, -, isAhead, isBehind⟩
  obtain ⟨after, split⟩ := last.split
  have third : renewed[2]? = some (.insert 2 stamped.value stamped.since) := by
    have length := congrArg List.length split
    simp only [renewed, List.length_append, List.length_cons, List.length_nil] at length
    obtain two : earlier.length = 2 := by omega
    rw [split, ← two]
    simp
  simp [renewed] at third

/-- One key is inserted again at the time of its first insertion, after another one. -/
def renewedAtOnce : List (MapCall Nat String) :=
  [.insert 1 "a" 0, .insert 2 "b" 0, .insert 1 "again" 0]

theorem renewedAtOnce_out_of_order :
    InOrder (renewedAtOnce ++ [.insert 3 "c" 0]) ∧
      ((afterCalls 5 2 renewedAtOnce).purge 0).isFullFor 3 = true ∧
      (afterCalls 5 2 renewedAtOnce).Evicts 3 "c" 0 1 ∧
      2 ∈ ((afterCalls 5 2 renewedAtOnce).purge 0).entries ∧
      ¬ LastBefore renewedAtOnce 1 2 := by
  have ordered : InOrder (renewedAtOnce ++ [.insert 3 "c" 0]) := by
    unfold InOrder
    decide
  have victim : (afterCalls 5 2 renewedAtOnce).Evicts 3 "c" 0 1 := by
    unfold Evicts
    decide +kernel
  have before : LastBefore renewedAtOnce 2 1 := by
    refine ⟨⟨"b", 0⟩, [.insert 1 "a" 0], ⟨"again", 0⟩, [.insert 1 "a" 0, .insert 2 "b" 0],
      ⟨_, [.insert 1 "again" 0], rfl, rfl, ?_⟩, ⟨_, [], rfl, rfl, nofun⟩, by decide⟩
    simp [MapCall.Inserts]
  exact ⟨ordered, by decide +kernel, victim, by decide +kernel, before.asymm⟩

end ExpiringMap

end SocketGateway
