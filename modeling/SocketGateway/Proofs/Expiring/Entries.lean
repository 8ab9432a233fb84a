import SocketGateway.PendingBinds

/-!
Contract: an expiring map holds nothing that was not put there.

Owns:
- purging and making room only drop entries;
- an insertion sets the entry of its key, and a removal takes it away.

Does not own: which entries are dropped, or when.
-/

namespace SocketGateway.ExpiringMap

variable {κ ν : Type} [Ord κ]

/-- Every entry of the first map is in the second. -/
def Within (smaller larger : Std.TreeMap κ (Held ν)) : Prop :=
  ∀ (key : κ) (held : Held ν), smaller[key]? = some held → larger[key]? = some held

theorem Within.refl (entries : Std.TreeMap κ (Held ν)) : Within entries entries :=
  fun _ _ found => found

theorem Within.trans {smaller middle larger : Std.TreeMap κ (Held ν)}
    (first : Within smaller middle) (second : Within middle larger) : Within smaller larger :=
  fun key held found => second key held (first key held found)

variable [Std.TransOrd κ]

private theorem erase_within (entries : Std.TreeMap κ (Held ν)) (key : κ) :
    Within (entries.erase key) entries := by
  intro other held found
  rw [Std.TreeMap.getElem?_erase] at found
  split at found
  · cases found
  · exact found

private theorem dropDue_within (now : Nat) (records : List (Insertion κ))
    (entries : Std.TreeMap κ (Held ν)) : Within (dropDue now records entries).2 entries := by
  induction records generalizing entries with
  | nil => exact Within.refl entries
  | cons record rest inductionHypothesis =>
    unfold dropDue
    by_cases due : record.deadline ≤ now
    · rw [if_pos due]
      apply (inductionHypothesis (dropRecorded entries record)).trans
      unfold dropRecorded
      split
      · exact erase_within entries record.key
      · exact Within.refl entries
    · rw [if_neg due]
      exact Within.refl entries

theorem purge_within (map : ExpiringMap κ ν) (now : Nat) :
    Within (map.purge now).entries map.entries := by
  rw [(purge_eq map now).2]
  exact dropDue_within now map.records map.entries

private theorem dropOldest_within (records : List (Insertion κ))
    (entries : Std.TreeMap κ (Held ν)) : Within (dropOldest records entries).2.1 entries := by
  induction records with
  | nil => exact Within.refl entries
  | cons record rest inductionHypothesis =>
    unfold dropOldest
    split
    · exact erase_within entries record.key
    · exact inductionHypothesis

private theorem evictOldest_within (map : ExpiringMap κ ν) :
    Within (map.evictOldest).1.entries map.entries := by
  have older := dropOldest_within map.order.older map.entries
  unfold evictOldest
  split
  · next found =>
    rw [found] at older
    exact older
  · next rest entries found =>
    rw [found] at older
    exact (dropOldest_within map.order.newerReversed.reverse entries).trans older

theorem makeRoom_within (key : κ) (limit : Nat) (map : ExpiringMap κ ν) :
    Within (makeRoom key limit map).entries map.entries := by
  induction limit generalizing map with
  | zero => exact Within.refl map.entries
  | succ limit inductionHypothesis =>
    have evicted := evictOldest_within map
    unfold makeRoom
    split
    · split
      · next smaller found =>
        rw [found] at evicted
        exact (inductionHypothesis smaller).trans evicted
      · next same found =>
        rw [found] at evicted
        exact evicted
    · exact Within.refl map.entries

/-- What is taken out was there. -/
theorem take_eq_some {map : ExpiringMap κ ν} {key : κ} {now : Nat} {value : ν}
    (taken : (map.take key now).1 = some value) :
    ∃ held, map.entries[key]? = some held ∧ held.value = value := by
  obtain ⟨held, found, same⟩ := Option.map_eq_some_iff.mp taken
  exact ⟨held, purge_within map now key held found, same⟩

variable [Std.LawfulEqOrd κ]

/-- After an insertion, an entry is the new one or was there before. -/
theorem insert_origin (map : ExpiringMap κ ν) (key : κ) (value : ν) (now : Nat) {other : κ}
    {held : Held ν} (found : (map.insert key value now).entries[other]? = some held) :
    (key = other ∧ held = ⟨value, now + map.ttl⟩) ∨ map.entries[other]? = some held := by
  simp only [insert, Std.TreeMap.getElem?_insert] at found
  split at found
  · next same =>
    exact Or.inl ⟨Std.LawfulEqOrd.eq_of_compare same, (Option.some.inj found).symm⟩
  · right
    apply purge_within map now
    apply makeRoom_within key
    exact found

/-- After a removal, an entry was there before, under another key. -/
theorem take_origin {map : ExpiringMap κ ν} {key other : κ} {now : Nat} {held : Held ν}
    (found : (map.take key now).2.entries[other]? = some held) :
    key ≠ other ∧ map.entries[other]? = some held := by
  simp only [take, Std.TreeMap.getElem?_erase] at found
  split at found
  · cases found
  · next different =>
    refine ⟨?_, purge_within map now other held found⟩
    rintro rfl
    exact different Std.ReflOrd.compare_self

end SocketGateway.ExpiringMap

namespace SocketGateway.PendingBinds

theorem stash_origin (table : PendingBinds) (token : CorrelationToken) (bind : PendingBind)
    (now : Nat) {other : CorrelationToken} {held : Held PendingBind}
    (found : (table.stash token bind now).binds.entries[other]? = some held) :
    (token = other ∧ held.value = bind) ∨ table.binds.entries[other]? = some held := by
  rcases ExpiringMap.insert_origin table.binds token bind now found with ⟨same, rfl⟩ | old
  · exact Or.inl ⟨same, rfl⟩
  · exact Or.inr old

theorem beginConnect_takes {table : PendingBinds} {token : CorrelationToken} {now : Nat}
    {bind? : Option PendingBind} (admits : (table.beginConnect token now).1 = .admitted bind?) :
    (table.binds.take token now).1 = bind? := by
  unfold beginConnect at admits
  split at admits
  · cases admits
  · exact Admission.admitted.inj admits

/-- A repetition leaves the binds as they are. -/
theorem binds_beginConnect_duplicate {table : PendingBinds} {token : CorrelationToken} {now : Nat}
    (duplicate : (table.beginConnect token now).1 = .duplicate) :
    (table.beginConnect token now).2.binds = table.binds := by
  unfold beginConnect at duplicate ⊢
  split at duplicate
  · rfl
  · cases duplicate

/-- A connect event leaves a bind under its token only if it is a repetition. -/
theorem beginConnect_origin {table : PendingBinds} {token other : CorrelationToken} {now : Nat}
    {held : Held PendingBind}
    (found : (table.beginConnect token now).2.binds.entries[other]? = some held) :
    ((table.beginConnect token now).1 = .duplicate ∨ token ≠ other) ∧
      table.binds.entries[other]? = some held := by
  unfold beginConnect at found ⊢
  split at found
  · exact ⟨Or.inl rfl, found⟩
  · obtain ⟨different, before⟩ := ExpiringMap.take_origin found
    exact ⟨Or.inr different, before⟩

end SocketGateway.PendingBinds
