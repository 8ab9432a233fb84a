import SocketGateway.Proofs.Expiring.Reference

/-!
Contract: what is left in an expiring map of the insertions of a row of calls.

Owns:
- the insertions of a row, and the last one under a key;
- whatever the times: an entry is what was last inserted under its key, and the records are the
  latest of the insertions, none left out;
- while time does not go back: there are no more records than insertions that are not over, and
  exactly as many as long as no insertion finds the map full;
- that no bound on the records depends on the capacity alone, unless everything expires at once.

Does not own: which entry an insertion into a full map drops.
-/

namespace SocketGateway

variable {κ ν : Type}

/-- The record that a call leaves. -/
def MapCall.record? (ttl : Nat) : MapCall κ ν → Option (Insertion κ)
  | .insert key _ now => some ⟨key, now + ttl⟩
  | .take _ _ => none
  | .contains _ _ => none
  | .purge _ => none
  | .size => none
  | .isEmpty => none

theorem MapCall.time_of_record? {ttl : Nat} {call : MapCall κ ν} {record : Insertion κ}
    (isRecord : call.record? ttl = some record) :
    ∃ now, call.time? = some now ∧ record.deadline = now + ttl := by
  cases call with
  | insert key value now =>
    obtain rfl := Option.some.inj isRecord
    exact ⟨now, rfl, rfl⟩
  | _ => cases isRecord

/-- Whether the call puts a value under the key. -/
def MapCall.Inserts (key : κ) (call : MapCall κ ν) : Prop :=
  ∃ value now, call = .insert key value now

/-- The records of all insertions of a row, in their order. -/
def insertions (ttl : Nat) (calls : List (MapCall κ ν)) : List (Insertion κ) :=
  calls.filterMap (MapCall.record? ttl)

/-- The last insertion under the key had this value and time, and came after these earlier calls. -/
def LastInserted (calls : List (MapCall κ ν)) (key : κ) (stamped : Stamped ν)
    (earlier : List (MapCall κ ν)) : Prop :=
  Since (fun _ call => call = .insert key stamped.value stamped.since) (MapCall.Inserts key) calls
    earlier

private theorem insertions_concat (ttl : Nat) (calls : List (MapCall κ ν)) (call : MapCall κ ν) :
    insertions ttl (calls ++ [call]) = insertions ttl calls ++ (call.record? ttl).toList := by
  rw [insertions, insertions, List.filterMap_append]
  cases call <;> rfl

/-- The last insertion under a key is the last call, or the last call is no insertion under it. -/
theorem lastInserted_concat {calls earlier : List (MapCall κ ν)} {call : MapCall κ ν} {key : κ}
    {stamped : Stamped ν} :
    LastInserted (calls ++ [call]) key stamped earlier ↔
      (earlier = calls ∧ call = .insert key stamped.value stamped.since) ∨
        (LastInserted calls key stamped earlier ∧ ¬ call.Inserts key) :=
  since_concat

namespace ExpiringMap

variable [Ord κ]

/-- The map in which a call looks: it purges first, if it has a time. -/
def purgedFor (map : ExpiringMap κ ν) (call : MapCall κ ν) : ExpiringMap κ ν :=
  match call.time? with
  | some now => map.purge now
  | none => map

private theorem records_purgedFor (map : ExpiringMap κ ν) (call : MapCall κ ν) :
    (map.purgedFor call).records <:+ map.records := by
  unfold purgedFor
  split
  · exact records_purge_suffix map _
  · exact List.suffix_rfl

section Records

variable [Std.TransOrd κ] [Std.LawfulEqOrd κ]

theorem Sized.perform {map : ExpiringMap κ ν} (sized : map.Sized) (call : MapCall κ ν) :
    (map.perform call).2.Sized := by
  cases call with
  | insert key value now => exact sized.insert key value now
  | take key now => exact sized.take key now
  | contains key now => exact sized.purge now
  | purge now => exact sized.purge now
  | size => exact sized
  | isEmpty => exact sized

theorem sized_afterCalls (ttl capacity : Nat) (calls : List (MapCall κ ν)) :
    (afterCalls ttl capacity calls).Sized := by
  induction calls using List.reverseRecOn with
  | nil => exact sized_new ttl capacity
  | append_singleton calls call inductionHypothesis =>
    rw [afterCalls, stateAfter_concat]
    exact inductionHypothesis.perform call

/-- A call drops records from the front, and leaves its own at the end. -/
theorem Sized.records_perform {map : ExpiringMap κ ν} (sized : map.Sized) (call : MapCall κ ν) :
    ∃ kept, kept <:+ (map.purgedFor call).records ∧
      (map.perform call).2.records = kept ++ (call.record? map.ttl).toList := by
  cases call with
  | insert key value now =>
    exact ⟨_, sized.records_roomFor key now, records_insert map key value now⟩
  | take key now => exact ⟨_, List.suffix_rfl, (List.append_nil _).symm⟩
  | contains key now => exact ⟨_, List.suffix_rfl, (List.append_nil _).symm⟩
  | purge now => exact ⟨_, List.suffix_rfl, (List.append_nil _).symm⟩
  | size => exact ⟨_, List.suffix_rfl, (List.append_nil _).symm⟩
  | isEmpty => exact ⟨_, List.suffix_rfl, (List.append_nil _).symm⟩

/-- The records are the latest of the insertions. -/
theorem records_suffix (ttl capacity : Nat) (calls : List (MapCall κ ν)) :
    (afterCalls ttl capacity calls).records <:+ insertions ttl calls := by
  induction calls using List.reverseRecOn with
  | nil => exact List.suffix_rfl
  | append_singleton calls call inductionHypothesis =>
    obtain ⟨kept, latest, records⟩ := (sized_afterCalls ttl capacity calls).records_perform call
    rw [afterCalls, stateAfter_concat, ← afterCalls, records, insertions_concat,
      (settings_afterCalls ttl capacity calls).1]
    obtain ⟨gone, all⟩ := (latest.trans (records_purgedFor _ call)).trans inductionHypothesis
    exact ⟨gone, by rw [← all, List.append_assoc]⟩

/-- A call leaves the entry that it puts there, and entries from before under other keys. -/
theorem entry_origin {map : ExpiringMap κ ν} {call : MapCall κ ν} {key : κ} {held : Held ν}
    (found : (map.perform call).2.entries[key]? = some held) :
    (∃ now, call = .insert key held.value now ∧ held.deadline = now + map.ttl) ∨
      (map.entries[key]? = some held ∧ ¬ call.Inserts key) := by
  have purged : ∀ now, (map.purge now).entries[key]? = some held →
      map.entries[key]? = some held := fun now => purge_within map now key held
  cases call with
  | insert other value now =>
    by_cases same : other = key
    · subst same
      left
      have isNew : (map.insert other value now).entries[other]? = some ⟨value, now + map.ttl⟩ :=
        Std.TreeMap.getElem?_insert_self
      obtain rfl := Option.some.inj (isNew.symm.trans found)
      exact ⟨now, rfl, rfl⟩
    · right
      refine ⟨(insert_origin map other value now found).resolve_left fun isNew => same isNew.1, ?_⟩
      rintro ⟨-, -, ⟨⟩⟩
      exact same rfl
  | take other now => exact Or.inr ⟨(take_origin found).2, nofun⟩
  | contains other now => exact Or.inr ⟨purged now found, nofun⟩
  | purge now => exact Or.inr ⟨purged now found, nofun⟩
  | size => exact Or.inr ⟨found, nofun⟩
  | isEmpty => exact Or.inr ⟨found, nofun⟩

/-- An entry is what was last inserted under its key. -/
theorem lastInserted_of_entry (ttl capacity : Nat) {calls : List (MapCall κ ν)} {key : κ}
    {held : Held ν} (found : (afterCalls ttl capacity calls).entries[key]? = some held) :
    ∃ stamped earlier, LastInserted calls key stamped earlier ∧ stamped.held ttl = held := by
  induction calls using List.reverseRecOn generalizing held with
  | nil => simp [afterCalls, stateAfter, new] at found
  | append_singleton calls call inductionHypothesis =>
    rw [afterCalls, stateAfter_concat, ← afterCalls] at found
    rcases entry_origin found with ⟨now, rfl, deadline⟩ | ⟨before, notAgain⟩
    · rw [(settings_afterCalls ttl capacity calls).1] at deadline
      exact ⟨⟨held.value, now⟩, calls, lastInserted_concat.mpr (Or.inl ⟨rfl, rfl⟩),
        by rw [Stamped.held, ← deadline]⟩
    · obtain ⟨stamped, earlier, last, same⟩ := inductionHypothesis before
      exact ⟨stamped, earlier, lastInserted_concat.mpr (Or.inr ⟨last, notAgain⟩), same⟩

end Records

/-! ### How many records there are -/

omit [Ord κ] in
/-- Among sorted records, those that are due stand in front. -/
theorem dropWhile_due {records : List (Insertion κ)} (now : Nat)
    (sorted : records.Pairwise fun earlier later => earlier.deadline ≤ later.deadline) :
    (records.dropWhile fun record => record.deadline ≤ now) =
      records.filter fun record => now < record.deadline := by
  induction records with
  | nil => rfl
  | cons record rest inductionHypothesis =>
    rw [List.pairwise_cons] at sorted
    by_cases due : record.deadline ≤ now
    · rw [List.dropWhile_cons_of_pos (by simpa using due), inductionHypothesis sorted.2,
        List.filter_cons_of_neg (by simpa using due)]
    · rw [List.dropWhile_cons_of_neg (by simpa using due), eq_comm, List.filter_eq_self]
      intro other among
      have ahead : now < record.deadline := Nat.lt_of_not_le due
      rcases List.mem_cons.mp among with rfl | later
      · exact decide_eq_true ahead
      · exact decide_eq_true (Nat.lt_of_lt_of_le ahead (sorted.1 other later))

theorem Orderly.records_purge_eq {map : ExpiringMap κ ν} {last : Nat} (orderly : map.Orderly last)
    (now : Nat) :
    (map.purge now).records = map.records.filter fun record => now < record.deadline := by
  rw [records_purge, dropWhile_due now orderly.sorted]

omit [Ord κ] in
/-- Whoever purged before dropped no record that is not over. -/
theorem filter_dropWhile_due {now later : Nat} (forward : now ≤ later)
    (records : List (Insertion κ)) :
    (records.dropWhile fun record => record.deadline ≤ now).filter
        (fun record => later < record.deadline) =
      records.filter fun record => later < record.deadline := by
  induction records with
  | nil => rfl
  | cons record rest inductionHypothesis =>
    by_cases due : record.deadline ≤ now
    · rw [List.dropWhile_cons_of_pos (by simpa using due), inductionHypothesis,
        List.filter_cons_of_neg (by simpa using Nat.le_trans due forward)]
    · rw [List.dropWhile_cons_of_neg (by simpa using due)]

/-- If the call is an insertion, the map has room for it. -/
def FindsRoom (map : ExpiringMap κ ν) (call : MapCall κ ν) : Prop :=
  ∀ key value now, call = .insert key value now → (map.purge now).isFullFor key = false

/-- No insertion of the row finds the map full. -/
def NeverFull (ttl capacity : Nat) (calls : List (MapCall κ ν)) : Prop :=
  ∀ before call, before ++ [call] <+: calls → (afterCalls ttl capacity before).FindsRoom call

/-- A call for which there is room drops no record that is not over. -/
theorem FindsRoom.records_perform {map : ExpiringMap κ ν} {call : MapCall κ ν} {later : Nat}
    (room : map.FindsRoom call) (past : ∀ now, call.time? = some now → now ≤ later) :
    (map.perform call).2.records.filter (fun record => later < record.deadline) =
      (map.records ++ (call.record? map.ttl).toList).filter
        fun record => later < record.deadline := by
  have purged : ∀ now, call.time? = some now →
      (map.purge now).records.filter (fun record => later < record.deadline) =
        map.records.filter fun record => later < record.deadline := by
    intro now atTime
    rw [records_purge, filter_dropWhile_due (past now atTime)]
  cases call with
  | insert key value now =>
    have roomy : map.roomFor key now = map.purge now := makeRoom_free (room key value now rfl) _
    rw [perform, records_insert, roomy, List.filter_append, purged now rfl, List.filter_append]
    rfl
  | take key now => exact (purged now rfl).trans (by simp [MapCall.record?])
  | contains key now => exact (purged now rfl).trans (by simp [MapCall.record?])
  | purge now => exact (purged now rfl).trans (by simp [MapCall.record?])
  | size => simp [perform, MapCall.record?]
  | isEmpty => simp [perform, MapCall.record?]

omit [Ord κ] in
private theorem deadline_of_until {ttl now : Nat} {calls : List (MapCall κ ν)}
    (past : Until now calls) {record : Insertion κ} (among : record ∈ insertions ttl calls) :
    record.deadline ≤ now + ttl := by
  obtain ⟨call, isCall, isRecord⟩ := List.mem_filterMap.mp among
  obtain ⟨time, atTime, deadline⟩ := MapCall.time_of_record? isRecord
  rw [deadline]
  exact Nat.add_le_add_right (past time (List.mem_filterMap.mpr ⟨call, isCall, atTime⟩)) ttl

/-- As long as no insertion finds the map full, no record goes before its time. -/
theorem NeverFull.unexpired_records {ttl capacity now : Nat} {calls : List (MapCall κ ν)}
    (neverFull : NeverFull ttl capacity calls) (past : Until now calls) :
    ((afterCalls ttl capacity calls).records.filter fun record => now < record.deadline) =
      (insertions ttl calls).filter fun record => now < record.deadline := by
  induction calls using List.reverseRecOn with
  | nil => rfl
  | append_singleton calls call inductionHypothesis =>
    obtain ⟨neverBefore, room⟩ := forall_before_concat.mp neverFull
    obtain ⟨pastBefore, pastCall⟩ := until_concat past
    rw [afterCalls, stateAfter_concat, ← afterCalls, room.records_perform pastCall,
      List.filter_append, inductionHypothesis neverBefore pastBefore, insertions_concat,
      List.filter_append, (settings_afterCalls ttl capacity calls).1]

/-! ### Values that are put in and taken out again -/

section Storm

/-- Puts a value under a key and takes it out again, over and over, all at one time. -/
def storm (key : κ) (value : ν) : Nat → List (MapCall κ ν)
  | 0 => []
  | rounds + 1 => storm key value rounds ++ [.insert key value 0] ++ [.take key 0]

variable (key : κ) (value : ν) (rounds : Nat)

omit [Ord κ] in
private theorem until_storm : Until 0 (storm key value rounds) := by
  induction rounds with
  | zero => exact nofun
  | succ rounds inductionHypothesis =>
    intro time isTime
    simp only [storm, List.filterMap_append, List.mem_append] at isTime
    rcases isTime with (before | put) | taken
    · exact inductionHypothesis time before
    · exact (List.mem_singleton.mp put).le
    · exact (List.mem_singleton.mp taken).le

omit [Ord κ] in
private theorem inOrder_storm : InOrder (storm key value rounds) := by
  apply List.pairwise_of_forall_mem_list
  intro earlier isEarlier later _
  exact Nat.le_trans (until_storm key value rounds earlier isEarlier) (Nat.zero_le later)

omit [Ord κ] in
private theorem insertions_storm (ttl : Nat) :
    insertions ttl (storm key value rounds) = List.replicate rounds ⟨key, ttl⟩ := by
  induction rounds with
  | zero => rfl
  | succ rounds inductionHypothesis =>
    rw [storm, insertions_concat, insertions_concat, inductionHypothesis, List.replicate_succ']
    simp [MapCall.record?]

variable [Std.TransOrd κ] [Std.LawfulEqOrd κ] (ttl capacity : Nat)

/-- Nothing is left in the map between two rounds. -/
theorem entries_storm (other : κ) :
    (afterCalls ttl capacity (storm key value rounds)).entries[other]? = none := by
  induction rounds with
  | zero => exact Std.TreeMap.getElem?_emptyc
  | succ rounds inductionHypothesis =>
    rw [storm, afterCalls, stateAfter_concat, stateAfter_concat, ← afterCalls]
    cases found : ((((afterCalls ttl capacity (storm key value rounds)).perform
        (.insert key value 0)).2.perform (.take key 0)).2.entries[other]?) with
    | none => rfl
    | some held =>
      obtain ⟨different, put⟩ := take_origin found
      rcases insert_origin _ key value 0 put with ⟨same, -⟩ | before
      · exact absurd same different
      · rw [inductionHypothesis] at before
        cases before

private theorem neverFull_storm : NeverFull ttl capacity (storm key value rounds) := by
  induction rounds with
  | zero => exact fun before call isPrefix => by simp [storm] at isPrefix
  | succ rounds inductionHypothesis =>
    refine forall_before_concat.mpr ⟨forall_before_concat.mpr ⟨inductionHypothesis, ?_⟩, nofun⟩
    rintro - - - ⟨⟩
    have nothing : ((afterCalls ttl capacity (storm key value rounds)).purge 0).entries.size ≤
        (∅ : Std.TreeMap κ (Held ν)).size := by
      apply size_le_of_within
      intro other held found
      have before := purge_within _ 0 other held found
      rw [entries_storm] at before
      cases before
    have positive := (sized_afterCalls ttl capacity (storm key value rounds)).positive
    rw [Std.TreeMap.size_emptyc] at nothing
    rw [isFullFor, capacity_purge, Bool.and_eq_false_iff]
    exact Or.inl (decide_eq_false (by omega))

/-- Every round leaves a record, although it leaves no entry. -/
theorem length_storm (notAtOnce : 0 < ttl) :
    (afterCalls ttl capacity (storm key value rounds)).records.length = rounds := by
  have recent := (neverFull_storm key value rounds ttl capacity).unexpired_records
    (until_storm key value rounds)
  have all := (records_suffix ttl capacity (storm key value rounds)).length_le
  rw [insertions_storm, List.length_replicate] at all
  refine Nat.le_antisymm all ?_
  calc rounds
    _ = ((List.replicate rounds (⟨key, ttl⟩ : Insertion κ)).filter
          fun record => 0 < record.deadline).length := by
      simp [notAtOnce]
    _ = ((afterCalls ttl capacity (storm key value rounds)).records.filter
          fun record => 0 < record.deadline).length := by
      rw [recent, insertions_storm]
    _ ≤ (afterCalls ttl capacity (storm key value rounds)).records.length :=
      List.length_filter_le _ _

end Storm

section Bounds

variable [Std.TransOrd κ] [Std.LawfulEqOrd κ]

/-- No record is left of an insertion that is over. -/
theorem length_purge_le (ttl capacity : Nat) {calls : List (MapCall κ ν)} (ordered : InOrder calls)
    {now : Nat} (past : Until now calls) :
    ((afterCalls ttl capacity calls).purge now).records.length ≤
      (insertions ttl calls).countP fun record => now < record.deadline := by
  rw [(orderly_afterCalls ttl capacity ordered past).records_purge_eq,
    ← List.countP_eq_length_filter]
  exact (records_suffix ttl capacity calls).sublist.countP_le

/-- If everything expires at once, only the record of the last call is left. -/
theorem length_records_le_one (capacity : Nat) {calls : List (MapCall κ ν)}
    (ordered : InOrder calls) : (afterCalls 0 capacity calls).records.length ≤ 1 := by
  induction calls using List.reverseRecOn with
  | nil => exact Nat.zero_le 1
  | append_singleton calls call inductionHypothesis =>
    obtain ⟨earlier, notBefore⟩ := inOrder_concat ordered
    obtain ⟨kept, latest, records⟩ := (sized_afterCalls 0 capacity calls).records_perform call
    rw [afterCalls, stateAfter_concat, ← afterCalls, records, List.length_append]
    cases atTime : call.time? with
    | none =>
      have noRecord : call.record? (afterCalls 0 capacity calls).ttl = none := by
        cases call with
        | insert key value now => cases atTime
        | _ => rfl
      have looks : (afterCalls 0 capacity calls).purgedFor call = afterCalls 0 capacity calls := by
        rw [purgedFor, atTime]
      rw [looks] at latest
      rw [noRecord]
      exact Nat.le_trans latest.length_le (inductionHypothesis earlier)
    | some now =>
      -- whatever was inserted before is over by now
      have gone : ((afterCalls 0 capacity calls).purge now).records.length ≤ 0 := by
        refine Nat.le_trans (length_purge_le 0 capacity earlier (notBefore now atTime)) ?_
        rw [Nat.le_zero, List.countP_eq_zero]
        intro record among
        simpa using deadline_of_until (notBefore now atTime) among
      have looks : (afterCalls 0 capacity calls).purgedFor call =
          (afterCalls 0 capacity calls).purge now := by
        rw [purgedFor, atTime]
      rw [looks] at latest
      have one : (call.record? (afterCalls 0 capacity calls).ttl).toList.length ≤ 1 := by
        cases call.record? (afterCalls 0 capacity calls).ttl <;> simp
      have nothing := latest.length_le
      omega

/-- While time does not go back, there are no more records than insertions that are not over, and
exactly as many as long as no insertion finds the map full. Nothing else bounds them: unless
everything expires at once, a map of any capacity can come to hold any number of records. -/
theorem records_bounded_iff [Nonempty κ] [Nonempty ν] (ttl capacity : Nat) :
    (∀ (calls : List (MapCall κ ν)) (now : Nat), InOrder calls → Until now calls →
      ((afterCalls ttl capacity calls).purge now).records.length ≤
          (insertions ttl calls).countP (fun record => now < record.deadline) ∧
        (NeverFull ttl capacity calls →
          ((afterCalls ttl capacity calls).purge now).records =
            (insertions ttl calls).filter fun record => now < record.deadline)) ∧
    ((∃ bound, ∀ calls : List (MapCall κ ν), InOrder calls →
      (afterCalls ttl capacity calls).records.length ≤ bound) ↔ ttl = 0) := by
  refine ⟨fun calls now ordered past => ⟨length_purge_le ttl capacity ordered past, ?_⟩, ?_, ?_⟩
  · intro neverFull
    rw [(orderly_afterCalls ttl capacity ordered past).records_purge_eq,
      neverFull.unexpired_records past]
  · rintro ⟨bound, bounded⟩
    by_contra notZero
    obtain ⟨key⟩ := ‹Nonempty κ›
    obtain ⟨value⟩ := ‹Nonempty ν›
    have stormy := bounded (storm key value (bound + 1)) (inOrder_storm key value (bound + 1))
    rw [length_storm key value (bound + 1) ttl capacity (Nat.pos_of_ne_zero notZero)] at stormy
    omega
  · rintro rfl
    exact ⟨1, fun calls ordered => length_records_le_one capacity ordered⟩

end Bounds

/-- Four rounds leave four records in a map for two keys. -/
theorem storm_recorded :
    InOrder (storm 7 "bind" 4) ∧ Until 0 (storm 7 "bind" 4) ∧ NeverFull 30 2 (storm 7 "bind" 4) ∧
      ((afterCalls 30 2 (storm 7 "bind" 4)).purge 0).records =
        [⟨7, 30⟩, ⟨7, 30⟩, ⟨7, 30⟩, ⟨7, 30⟩] ∧
      ¬ ∃ bound, ∀ calls : List (MapCall Nat String), InOrder calls →
        (afterCalls 30 2 calls).records.length ≤ bound := by
  have ordered := inOrder_storm 7 "bind" 4
  have past := until_storm 7 "bind" 4
  have neverFull := neverFull_storm 7 "bind" 4 30 2
  obtain ⟨recent, bounded⟩ := @records_bounded_iff Nat String _ _ _ _ _ 30 2
  refine ⟨ordered, past, neverFull, ?_, fun anyBound => nomatch bounded.mp anyBound⟩
  rw [(recent _ 0 ordered past).2 neverFull]
  decide

/-- No function of the capacity bounds the records that a map holds. -/
theorem storm_unbounded :
    ¬ ∃ bound : Nat → Nat, ∀ (ttl capacity : Nat) (calls : List (MapCall Nat String)),
      InOrder calls → (afterCalls ttl capacity calls).records.length ≤ bound capacity := by
  rintro ⟨bound, bounded⟩
  have stormy := bounded 30 100 (storm 0 "bind" (bound 100 + 1)) (inOrder_storm _ _ _)
  rw [length_storm 0 "bind" (bound 100 + 1) 30 100 (by decide)] at stormy
  omega

end ExpiringMap

end SocketGateway
