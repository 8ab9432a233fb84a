import SocketGateway.Proofs.Expiring.Eviction

/-!
Contract: what holds of an expiring map although times go back from one call to the next.

Owns:
- rows of calls whose times go back by no more than a lag;
- making room, one look at the map after the other: there is always something to evict;
- why a call may lose an entry whose deadline has not passed;
- that an entry is found for no longer than the lag after its deadline.

Does not own: why times go back.
-/

namespace SocketGateway

variable {κ ν : Type}

/-- No call was made at a time more than `lag` before the time of an earlier call. -/
def Lagging (lag : Nat) (calls : List (MapCall κ ν)) : Prop :=
  (calls.filterMap MapCall.time?).Pairwise fun earlier later => earlier ≤ later + lag

/-- The deadlines of insertions go back by no more than the times do. -/
theorem Lagging.insertions {lag : Nat} {calls : List (MapCall κ ν)} (lagging : Lagging lag calls)
    (ttl : Nat) :
    (insertions ttl calls).Pairwise fun earlier later =>
      earlier.deadline ≤ later.deadline + lag := by
  rw [Lagging, List.pairwise_filterMap] at lagging
  rw [SocketGateway.insertions, List.pairwise_filterMap]
  refine lagging.imp ?_
  intro first second inTime earlier isEarlier later isLater
  obtain ⟨earlierTime, atEarlier, earlierDeadline⟩ := MapCall.time_of_record? isEarlier
  obtain ⟨laterTime, atLater, laterDeadline⟩ := MapCall.time_of_record? isLater
  have behind := inTime earlierTime atEarlier laterTime atLater
  omega

namespace ExpiringMap

variable [Ord κ]

/-- The maps that making room for a key looks at: the one it begins with, and after each eviction
the one that is left, as long as the key has no room. -/
inductive LooksAt (key : κ) (start : ExpiringMap κ ν) : ExpiringMap κ ν → Prop where
  | start : LooksAt key start start
  | next {map smaller : ExpiringMap κ ν} (before : LooksAt key start map)
      (full : map.isFullFor key = true) (evicted : map.evictOldest = (smaller, true)) :
      LooksAt key start smaller

/-- The entry is in the map, and the call does not leave it there. -/
def Loses (map : ExpiringMap κ ν) (call : MapCall κ ν) (key : κ) (held : Held ν) : Prop :=
  map.entries[key]? = some held ∧ (map.perform call).2.entries[key]? ≠ some held

/-- The calls that may lose the entry of a key at any time. -/
inductive MayLose (map : ExpiringMap κ ν) (key : κ) : MapCall κ ν → Prop where
  | taken (now : Nat) : MayLose map key (.take key now)
  | replaced (value : ν) (now : Nat) : MayLose map key (.insert key value now)
  | evicted {other : κ} {value : ν} {now : Nat} (full : (map.purge now).isFullFor other = true)
      (evicts : map.Evicts other value now key) : MayLose map key (.insert other value now)

omit [Ord κ] in
/-- A record that stays while what is over is taken from the front is over for the lag at most. -/
theorem ahead_of_dropWhile {lag now : Nat} {records : List (Insertion κ)} {record : Insertion κ}
    (lagging : records.Pairwise fun earlier later => earlier.deadline ≤ later.deadline + lag)
    (stays : record ∈ records.dropWhile fun record => record.deadline ≤ now) :
    now < record.deadline + lag := by
  induction records with
  | nil => cases stays
  | cons first rest inductionHypothesis =>
    rw [List.pairwise_cons] at lagging
    by_cases due : first.deadline ≤ now
    · rw [List.dropWhile_cons_of_pos (by simpa using due)] at stays
      exact inductionHypothesis lagging.2 stays
    · rw [List.dropWhile_cons_of_neg (by simpa using due)] at stays
      rcases List.mem_cons.mp stays with rfl | later
      · omega
      · have behind := lagging.1 record later
        omega

variable [Std.TransOrd κ] [Std.LawfulEqOrd κ]

theorem Sized.looksAt {start map : ExpiringMap κ ν} (sized : start.Sized) {key : κ}
    (looks : LooksAt key start map) : map.Sized := by
  induction looks with
  | start => exact sized
  | next before full evicted inductionHypothesis =>
    obtain ⟨present, isPresent⟩ := inductionHypothesis.exists_mem_of_full full
    obtain ⟨-, -, -, -, -, -, smaller⟩ := inductionHypothesis.evictOldest isPresent
    rw [evicted] at smaller
    exact smaller

/-- There is always an entry to evict for a key that has no room. -/
theorem Sized.evicts_of_full {map : ExpiringMap κ ν} (sized : map.Sized) {key : κ}
    (full : map.isFullFor key = true) : map.evictOldest.2 = true := by
  obtain ⟨present, isPresent⟩ := sized.exists_mem_of_full full
  obtain ⟨-, -, -, found, -⟩ := sized.evictOldest isPresent
  exact found

theorem Sized.evicts_unique {map : ExpiringMap κ ν} (sized : map.Sized) {key : κ} {value : ν}
    {now : Nat} {victim other : κ} (evicts : map.Evicts key value now victim)
    (alsoEvicts : map.Evicts key value now other) : other = victim := by
  obtain ⟨record, rest, -, isRecord⟩ := sized.evicts_iff evicts.full value
  rw [(isRecord victim).mp evicts, (isRecord other).mp alsoEvicts]

/-- A call loses an entry whose deadline has not passed only if it takes, replaces or evicts it. -/
theorem Loses.cases {map : ExpiringMap κ ν} {call : MapCall κ ν} {key : κ} {held : Held ν}
    (loses : map.Loses call key held) :
    (∃ now, call.time? = some now ∧ held.deadline ≤ now) ∨ MayLose map key call := by
  obtain ⟨found, lost⟩ := loses
  cases call with
  | insert other value now =>
    by_cases same : key = other
    · subst same
      exact Or.inr (.replaced value now)
    · refine (kept_or_over now found).symm.imp (fun due => ⟨now, rfl, due⟩) fun kept => ?_
      have evicts : map.Evicts other value now key := by
        refine ⟨Std.TreeMap.mem_iff_isSome_getElem?.mpr (by rw [kept]; rfl), ?_⟩
        intro isThere
        obtain ⟨left, isLeft⟩ :=
          Option.isSome_iff_exists.mp (Std.TreeMap.mem_iff_isSome_getElem?.mp isThere)
        have before : (map.purge now).entries[key]? = some left := by
          rw [getElem?_insert_of_ne same] at isLeft
          exact makeRoom_within other _ _ key left isLeft
        rw [← before, kept] at isLeft
        exact lost isLeft
      exact .evicted evicts.full evicts
  | take other now =>
    by_cases same : key = other
    · subst same
      exact Or.inr (.taken now)
    · refine Or.inl ⟨now, rfl, (kept_or_over now found).resolve_left fun kept => lost ?_⟩
      rw [ExpiringMap.perform, ExpiringMap.take, Std.TreeMap.getElem?_erase, if_neg, kept]
      rw [Std.LawfulEqCmp.compare_eq_iff_eq]
      exact Ne.symm same
  | contains other now => exact Or.inl ⟨now, rfl, (kept_or_over now found).resolve_left lost⟩
  | purge now => exact Or.inl ⟨now, rfl, (kept_or_over now found).resolve_left lost⟩
  | size => exact absurd found lost
  | isEmpty => exact absurd found lost

/-- What is in the map after purging is over for the lag at most. -/
theorem ahead_of_purge (ttl capacity : Nat) {lag : Nat} {calls : List (MapCall κ ν)}
    (lagging : Lagging lag calls) {now : Nat} {key : κ} {held : Held ν}
    (found : ((afterCalls ttl capacity calls).purge now).entries[key]? = some held) :
    now < held.deadline + lag := by
  have isRecord := ((sized_afterCalls ttl capacity calls).purge now).recorded key held found
  rw [records_purge] at isRecord
  exact ahead_of_dropWhile
    ((lagging.insertions ttl).sublist (records_suffix ttl capacity calls).sublist) isRecord

/-- What is found was last inserted under its key, and is over for the lag at most. -/
theorem lastInserted_of_found (ttl capacity : Nat) {lag : Nat} {calls : List (MapCall κ ν)}
    (lagging : Lagging lag calls) {now : Nat} {key : κ} {held : Held ν}
    (found : ((afterCalls ttl capacity calls).purge now).entries[key]? = some held) :
    ∃ stamped earlier, LastInserted calls key stamped earlier ∧ stamped.value = held.value ∧
      now < stamped.since + ttl + lag := by
  obtain ⟨stamped, earlier, last, rfl⟩ := lastInserted_of_entry ttl capacity
    (purge_within (afterCalls ttl capacity calls) now key held found)
  exact ⟨stamped, earlier, last, rfl, ahead_of_purge ttl capacity lagging found⟩

/-- Whatever the times of the calls, a map never holds more than its capacity, making room for a key
never finds nothing to evict, an insertion evicts one key at most, and no call loses an entry before
its deadline unless it takes, replaces or evicts it. If times go back by no more than a lag, nothing
is found that has been over for the lag. -/
theorem sound_in_disorder (ttl capacity : Nat) (calls : List (MapCall κ ν)) :
    (afterCalls ttl capacity calls).size ≤ max 1 capacity ∧
    (∀ key now, ((afterCalls ttl capacity calls).roomFor key now).isFullFor key = false ∧
      ∀ map, LooksAt key ((afterCalls ttl capacity calls).purge now) map →
        map.isFullFor key = true → map.evictOldest.2 = true) ∧
    (∀ key value now victim other, (afterCalls ttl capacity calls).Evicts key value now victim →
      (afterCalls ttl capacity calls).Evicts key value now other → other = victim) ∧
    (∀ call key held, (afterCalls ttl capacity calls).Loses call key held →
      (∃ now, call.time? = some now ∧ held.deadline ≤ now) ∨
        MayLose (afterCalls ttl capacity calls) key call) ∧
    ∀ lag, Lagging lag calls → ∀ key now,
      (∀ value, ((afterCalls ttl capacity calls).take key now).1 = some value →
        ∃ since earlier, LastInserted calls key ⟨value, since⟩ earlier ∧
          now < since + ttl + lag) ∧
      (((afterCalls ttl capacity calls).contains key now).1 = true →
        ∃ stamped earlier, LastInserted calls key stamped earlier ∧
          now < stamped.since + ttl + lag) := by
  have sized := sized_afterCalls ttl capacity calls
  refine ⟨?_, ?_, ?_, fun call key held => Loses.cases, ?_⟩
  · have bounded := sized.bounded
    rwa [(settings_afterCalls ttl capacity calls).2] at bounded
  · intro key now
    refine ⟨((sized.purge now).makeRoom key).1, fun map looks full => ?_⟩
    exact ((sized.purge now).looksAt looks).evicts_of_full full
  · intro key value now victim other evicts alsoEvicts
    exact sized.evicts_unique evicts alsoEvicts
  · intro lag lagging key now
    constructor
    · intro value taken
      obtain ⟨held, found, rfl⟩ := Option.map_eq_some_iff.mp taken
      obtain ⟨⟨_, since⟩, earlier, last, rfl, inTime⟩ :=
        lastInserted_of_found ttl capacity lagging found
      exact ⟨since, earlier, last, inTime⟩
    · intro isThere
      rw [contains, Std.TreeMap.contains_eq_isSome_getElem?] at isThere
      obtain ⟨held, found⟩ := Option.isSome_iff_exists.mp isThere
      obtain ⟨stamped, earlier, last, -, inTime⟩ :=
        lastInserted_of_found ttl capacity lagging found
      exact ⟨stamped, earlier, last, inTime⟩

/-- The second insertion is made at an earlier time than the first, and so hidden behind it. -/
def setBack : List (MapCall Nat String) :=
  [.insert 1 "late" 10, .insert 2 "early" 4, .contains 1 11]

theorem setBack_sound :
    (afterCalls 5 2 setBack).size ≤ 2 ∧
      ((afterCalls 5 2 setBack).purge 4).isFullFor 3 = true ∧
      ((afterCalls 5 2 setBack).purge 4).evictOldest.2 = true ∧
      (∀ other, (afterCalls 5 2 setBack).Evicts 3 "new" 4 other → other = 1) ∧
      (afterCalls 5 2 setBack).Loses (.insert 3 "new" 4) 1 ⟨"late", 15⟩ ∧
      MayLose (afterCalls 5 2 setBack) 1 (.insert 3 "new" 4) ∧
      Lagging 6 setBack ∧ ((afterCalls 5 2 setBack).take 2 12).1 = some "early" ∧
      ∃ since earlier, LastInserted setBack 2 ⟨"early", since⟩ earlier ∧ 12 < since + 5 + 6 := by
  obtain ⟨bounded, makesRoom, evictsOne, losesOnly, inTime⟩ := sound_in_disorder 5 2 setBack
  have full : ((afterCalls 5 2 setBack).purge 4).isFullFor 3 = true := by decide +kernel
  have evicts : (afterCalls 5 2 setBack).Evicts 3 "new" 4 1 := by
    unfold Evicts
    decide +kernel
  have loses : (afterCalls 5 2 setBack).Loses (.insert 3 "new" 4) 1 ⟨"late", 15⟩ := by
    unfold Loses
    decide +kernel
  have lagging : Lagging 6 setBack := by
    unfold Lagging
    decide
  have taken : ((afterCalls 5 2 setBack).take 2 12).1 = some "early" := by decide +kernel
  refine ⟨bounded, full, (makesRoom 3 4).2 _ .start full, ?_, loses, ?_, lagging, taken,
    (inTime 6 lagging 2 12).1 "early" taken⟩
  · intro other alsoEvicts
    exact evictsOne 3 "new" 4 1 other evicts alsoEvicts
  · refine (losesOnly _ 1 _ loses).resolve_left ?_
    rintro ⟨now, ⟨⟩, due⟩
    exact absurd due (by decide)

end ExpiringMap

end SocketGateway
