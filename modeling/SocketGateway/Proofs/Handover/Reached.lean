import SocketGateway.Proofs.Expiring.Deadlines

/-!
Contract: the tables of the handover as their operations leave them, whatever the times.

Owns:
- tables that were reached by operations, with the times of these;
- what stashing a bind makes of such a table: one entry is gained, and what is lost is over, but for
  one entry of a full table.

Does not own: who stashes binds, or when.
-/

namespace SocketGateway.PendingBinds

/-- Operations at these times lead from new tables to these. -/
inductive Reached : List Nat → PendingBinds → Prop where
  | new (pendingTtl onceBoundTtl : Nat) : Reached [] (.new pendingTtl onceBoundTtl)
  | stash {times : List Nat} {table : PendingBinds} (reached : Reached times table)
      (token : CorrelationToken) (bind : PendingBind) (now : Nat) :
      Reached (times ++ [now]) (table.stash token bind now)
  | beginConnect {times : List Nat} {table : PendingBinds} (reached : Reached times table)
      (token : CorrelationToken) (now : Nat) :
      Reached (times ++ [now]) (table.beginConnect token now).2
  | count {times : List Nat} {table : PendingBinds} (reached : Reached times table) (now : Nat) :
      Reached (times ++ [now]) (table.count now).2

/-- Time has not gone back before `now`. -/
def InTime (times : List Nat) (now : Nat) : Prop := (times ++ [now]).Pairwise (· ≤ ·)

/-- A table gains the entry of a bind, and no other one. What it loses was over by `now`, but for
one entry, which goes only from a full table, and is an oldest one if time has not gone back. -/
structure Gains (before after : PendingBinds) (token : CorrelationToken) (bind : PendingBind)
    (times : List Nat) (now : Nat) : Prop where
  absent : before.binds.entries[token]? = none
  gained : after.binds.entries[token]? = some ⟨bind, now + before.binds.ttl⟩
  others : ∀ other held, other ≠ token → after.binds.entries[other]? = some held →
    before.binds.entries[other]? = some held
  lost : ∃ victim? : Option CorrelationToken,
    (∀ victim, victim? = some victim → maxPending ≤ before.binds.size ∧
      (InTime times now → ExpiringMap.IsOldest (before.binds.purge now).entries victim)) ∧
    ∀ other held, before.binds.entries[other]? = some held →
      after.binds.entries[other]? = some held ∨ held.deadline ≤ now ∨ victim? = some other
  onceBound : after.onceBound = before.onceBound

variable {times : List Nat} {table : PendingBinds} {now : Nat}

theorem InTime.last {time : Nat} (inTime : InTime (times ++ [time]) now) :
    InTime times time ∧ time ≤ now := by
  obtain ⟨inOrder, -, before⟩ := List.pairwise_append.mp inTime
  exact ⟨inOrder, before time (by simp) now (by simp)⟩

private theorem binds_beginConnect (table : PendingBinds) (token : CorrelationToken) (now : Nat) :
    (table.beginConnect token now).2.binds = table.binds ∨
      (table.beginConnect token now).2.binds = (table.binds.take token now).2 := by
  unfold beginConnect
  split
  · exact Or.inl rfl
  · exact Or.inr rfl

theorem Reached.sized (reached : Reached times table) :
    table.binds.Sized ∧ table.binds.capacity = maxPending := by
  induction reached with
  | new pendingTtl onceBoundTtl => exact ⟨ExpiringMap.sized_new _ _, rfl⟩
  | stash reached token bind now inductionHypothesis =>
    obtain ⟨sized, capacity⟩ := inductionHypothesis
    exact ⟨sized.insert token bind now, (ExpiringMap.capacity_roomFor _ _ _).trans capacity⟩
  | @beginConnect times table reached token now inductionHypothesis =>
    obtain ⟨sized, capacity⟩ := inductionHypothesis
    rcases table.binds_beginConnect token now with same | taken
    · rw [same]
      exact ⟨sized, capacity⟩
    · rw [taken]
      exact ⟨sized.take token now, (ExpiringMap.capacity_purge _ _).trans capacity⟩
  | count reached now inductionHypothesis =>
    obtain ⟨sized, capacity⟩ := inductionHypothesis
    exact ⟨sized.purge now, (ExpiringMap.capacity_purge _ _).trans capacity⟩

theorem Reached.orderly (reached : Reached times table) (inTime : InTime times now) :
    table.binds.Orderly now := by
  induction reached generalizing now with
  | new pendingTtl onceBoundTtl => exact (ExpiringMap.orderly_new _ _).mono (Nat.zero_le now)
  | stash reached token bind time inductionHypothesis =>
    obtain ⟨before, forward⟩ := inTime.last
    exact ((inductionHypothesis before).insert token bind).mono forward
  | @beginConnect times table reached token time inductionHypothesis =>
    obtain ⟨before, forward⟩ := inTime.last
    have orderly := inductionHypothesis before
    rcases table.binds_beginConnect token time with same | taken
    · rw [same]
      exact orderly.mono forward
    · rw [taken]
      exact (orderly.take token).mono forward
  | count reached time inductionHypothesis =>
    obtain ⟨before, forward⟩ := inTime.last
    exact (inductionHypothesis before).purge.mono forward

/-- Stashing a bind under a token that is not in use gains its entry. -/
theorem gains_stash (reached : Reached times table) {token : CorrelationToken}
    (absent : table.binds.entries[token]? = none) (bind : PendingBind) (now : Nat) :
    Gains table (table.stash token bind now) token bind times now where
  absent := absent
  gained := by
    rw [stash, ExpiringMap.insert_eq]
    simp
  others other held different found := by
    rcases ExpiringMap.insert_origin table.binds token bind now found with ⟨same, -⟩ | old
    · exact absurd same.symm different
    · exact old
  lost := by
    obtain ⟨sized, capacity⟩ := reached.sized
    obtain ⟨victim?, full, kept⟩ := sized.dropped_of_insert token bind now
    refine ⟨victim?.map Insertion.key, ?_, ?_⟩
    · intro victim isVictim
      obtain ⟨record, found, rfl⟩ := Option.map_eq_some_iff.mp isVictim
      obtain ⟨crowded, rest, first⟩ := full record found
      rw [capacity] at crowded
      exact ⟨crowded, fun inTime => (reached.orderly inTime).purge.isOldest first⟩
    · intro other held found
      have different : other ≠ token := by
        rintro rfl
        rw [absent] at found
        cases found
      rcases kept other held different found with kept | timedOut | ⟨record, isVictim, isKey⟩
      · exact Or.inl kept
      · exact Or.inr (Or.inl timedOut)
      · exact Or.inr (Or.inr (Option.map_eq_some_iff.mpr ⟨record, isVictim, isKey⟩))
  onceBound := rfl

end SocketGateway.PendingBinds
