import SocketGateway.Proofs.Registry.Bindings
import SocketGateway.Time.Clock

/-!
Contract: idle clients stand in the order in which they were marked last.

Owns:
- calls as they are made with a clock;
- the line of idle clients: who goes to its end, and who leaves it;
- that a registry lists exactly this line, and that the clock has no say in its order.

The marks are kept in the order of the client ids; the line is found again through their numbers.

Does not own: when a client is marked as idle, or what its idleness is good for.
-/

namespace SocketGateway

namespace RegistryCall

/-- Whether a call reads the clock. A registration and a mark do, even if nothing comes of them. -/
def readsClock : RegistryCall → Bool
  | .register _ _ _ _ => true
  | .idle _ _ => true
  | _ => false

/-- The same call when the clock shows `now`. -/
def madeAt (now : Int64) : RegistryCall → RegistryCall
  | .register id connection option _ => .register id connection option now
  | .idle id _ => .idle id now
  | call => call

/-- The calls as they are made with a clock. -/
def timed : Clock → List RegistryCall → List RegistryCall
  | _, [] => []
  | clock, call :: rest =>
    call.madeAt clock.now :: timed (if call.readsClock then clock.advance else clock) rest

end RegistryCall

/-- The idle clients in line, each with the clock's reading when it was marked last. -/
abbrev IdleLine := List (ClientId × Int64)

namespace IdleLine

def leave (line : IdleLine) (id : ClientId) : IdleLine := line.filter fun entry => id ≠ entry.1

/-- A client that is marked goes to the end. -/
def rejoin (line : IdleLine) (id : ClientId) (now : Int64) : IdleLine :=
  line.leave id ++ [(id, now)]

/-- Whoever is on the connection leaves. -/
def vacate (bindings : Bindings) (line : IdleLine) (key : ConnectionId) : IdleLine :=
  line.filter fun entry => ¬ bindings.IsOn entry.1 key

/-- The line after a call, by who is online how before it. -/
def perform (bindings : Bindings) (line : IdleLine) : RegistryCall → IdleLine
  | .register id connection _ now =>
    if bindings.IsOn id connection.id then line
    else (line.vacate bindings connection.id).rejoin id now
  | .deregister connection => line.vacate bindings connection.id
  | .idle id now => if (bindings id).isSome then line.rejoin id now else line
  | .leaveIdle id => line.leave id
  | .setOption _ _ => line

/-- Who is online, and who is idle in line. -/
def step (state : Bindings × IdleLine) (call : RegistryCall) : Bindings × IdleLine :=
  (state.1.perform call, state.2.perform state.1 call)

/-- The line after these calls on an empty registry. -/
def after (calls : List RegistryCall) : IdleLine := (calls.foldl step (fun _ => none, [])).2

private theorem foldl_step_bindings (calls : List RegistryCall) (state : Bindings × IdleLine) :
    (calls.foldl step state).1 = calls.foldl Bindings.perform state.1 := by
  induction calls generalizing state with
  | nil => rfl
  | cons call rest inductionHypothesis => exact inductionHypothesis (step state call)

theorem after_concat (calls : List RegistryCall) (call : RegistryCall) :
    after (calls ++ [call]) = (after calls).perform (Bindings.after calls) call := by
  rw [after, List.foldl_concat, step, foldl_step_bindings]
  rfl

/-! ### Two clocks -/

/-- The clients in line, without the times. -/
def ids (line : IdleLine) : List ClientId := line.map Prod.fst

private theorem ids_filter (line : IdleLine) (stays : ClientId → Bool) :
    ids (line.filter fun entry => stays entry.1) = (ids line).filter stays := by
  rw [ids, ids, List.filter_map]
  rfl

private theorem ids_rejoin (line : IdleLine) (id : ClientId) (now : Int64) :
    (line.rejoin id now).ids = line.ids.filter (fun other => id ≠ other) ++ [id] := by
  rw [rejoin, ids, List.map_append, ← ids, leave, ids_filter line fun other => id ≠ other]
  rfl

private theorem ids_vacate (bindings : Bindings) (line : IdleLine) (key : ConnectionId) :
    (line.vacate bindings key).ids = line.ids.filter fun other => ¬ bindings.IsOn other key :=
  ids_filter line fun other => ¬ bindings.IsOn other key

/-- The time of a call does not matter to who stands where. -/
theorem ids_perform {left right : IdleLine} (same : left.ids = right.ids) (bindings : Bindings)
    (call : RegistryCall) (now later : Int64) :
    (left.perform bindings (call.madeAt now)).ids =
      (right.perform bindings (call.madeAt later)).ids := by
  cases call with
  | register id connection option =>
    simp only [RegistryCall.madeAt, perform]
    split
    · exact same
    · rw [ids_rejoin, ids_rejoin, ids_vacate, ids_vacate, same]
  | deregister connection => simp only [RegistryCall.madeAt, perform, ids_vacate, same]
  | idle id =>
    simp only [RegistryCall.madeAt, perform]
    split
    · rw [ids_rejoin, ids_rejoin, same]
    · exact same
  | leaveIdle id =>
    simp only [RegistryCall.madeAt, perform, leave]
    rw [ids_filter left fun other => id ≠ other, ids_filter right fun other => id ≠ other, same]
  | setOption id option => exact same

private theorem ids_foldl_timed (calls : List RegistryCall) (first second : Clock)
    {left right : Bindings × IdleLine} (bindings : left.1 = right.1)
    (same : left.2.ids = right.2.ids) :
    ((RegistryCall.timed first calls).foldl step left).2.ids =
      ((RegistryCall.timed second calls).foldl step right).2.ids := by
  induction calls generalizing first second left right with
  | nil => exact same
  | cons call rest inductionHypothesis =>
    refine inductionHypothesis _ _ ?_ ?_
    · rw [step, step, bindings]
      cases call <;> rfl
    · rw [step, step, bindings]
      exact ids_perform same right.1 call first.now second.now

end IdleLine

namespace ClientRegistry

/-- The marks of the idle clients in the order of their numbers. -/
def ranking (registry : ClientRegistry) : List (ClientId × IdleMark) :=
  registry.idleMarks.toList.mergeSort fun left right => left.2.number ≤ right.2.number

section Ranking

variable {registry after : ClientRegistry}

private theorem idleEntries_eq (registry : ClientRegistry) :
    registry.idleEntries = registry.ranking.map fun entry => (entry.1, entry.2.since) :=
  rfl

private theorem mem_ranking {id : ClientId} {mark : IdleMark} :
    (id, mark) ∈ registry.ranking ↔ registry.idleMarks[id]? = some mark := by
  rw [ranking, List.mem_mergeSort, Std.TreeMap.mem_toList_iff_getElem?_eq_some]

/-- The numbers rise along the ranking, as no two marks bear the same one. -/
theorem ranking_rises (numbered : registry.Numbered) :
    registry.ranking.Pairwise fun left right => left.2.number < right.2.number := by
  have sorted : registry.ranking.Pairwise fun left right => left.2.number ≤ right.2.number := by
    refine (List.pairwise_mergeSort ?_ ?_ _).imp fun less => of_decide_eq_true less
    · intro first second third less less'
      simp only [decide_eq_true_eq] at less less' ⊢
      exact Nat.le_trans less less'
    · intro first second
      simpa using Nat.le_total _ _
  have nodup : registry.ranking.Nodup := by
    rw [ranking, (List.mergeSort_perm _ _).nodup_iff]
    refine Std.TreeMap.distinct_keys_toList.imp ?_
    intro left right apart equal
    exact apart (equal ▸ Std.ReflCmp.compare_self)
  refine (sorted.and nodup).imp_of_mem ?_
  rintro ⟨left, leftMark⟩ ⟨right, rightMark⟩ isLeft isRight ⟨less, different⟩
  have foundLeft := mem_ranking.mp isLeft
  have foundRight := mem_ranking.mp isRight
  refine Nat.lt_of_le_of_ne less fun sameNumber => different ?_
  obtain rfl := numbered.distinct foundLeft foundRight sameNumber
  rw [Option.some.inj (foundLeft.symm.trans foundRight)]

/-- A list is the ranking if it has the same marks, and their numbers rise. -/
theorem ranking_eq (numbered : registry.Numbered) {entries : List (ClientId × IdleMark)}
    (rises : entries.Pairwise fun left right => left.2.number < right.2.number)
    (same : ∀ id mark, (id, mark) ∈ entries ↔ registry.idleMarks[id]? = some mark) :
    registry.ranking = entries := by
  have : Std.Irrefl fun left right : ClientId × IdleMark => left.2.number < right.2.number :=
    ⟨fun _ => Nat.lt_irrefl _⟩
  have : Std.Antisymm fun left right : ClientId × IdleMark => left.2.number < right.2.number :=
    ⟨fun _ _ less more => absurd less (Nat.lt_asymm more)⟩
  refine (ranking_rises numbered).eq_of_mem_iff rises ?_
  rintro ⟨id, mark⟩
  rw [mem_ranking, same]

/-- When marks go, the ranking is what is left of it. -/
theorem ranking_of_drop (numbered : registry.Numbered) (numberedAfter : after.Numbered)
    (goes : ClientId → Prop) [DecidablePred goes]
    (idleMarks : ∀ other, after.idleMarks[other]? =
      if goes other then none else registry.idleMarks[other]?) :
    after.ranking = registry.ranking.filter fun entry => ¬ goes entry.1 := by
  refine ranking_eq numberedAfter ((ranking_rises numbered).filter _) ?_
  intro id mark
  rw [List.mem_filter, mem_ranking, idleMarks]
  by_cases isGone : goes id <;> simp [isGone]

/-- A mark that is set comes last, as it bears the highest number. -/
theorem ranking_of_mark (numbered : registry.Numbered) (numberedAfter : after.Numbered)
    {id : ClientId} {now : Int64} (goes : ClientId → Prop) [DecidablePred goes]
    (idleMarks : ∀ other, after.idleMarks[other]? =
      if id = other then some ⟨registry.marksSet + 1, now⟩
      else if goes other then none else registry.idleMarks[other]?) :
    after.ranking = ((registry.ranking.filter fun entry => ¬ goes entry.1).filter fun entry =>
      id ≠ entry.1) ++ [(id, ⟨registry.marksSet + 1, now⟩)] := by
  refine ranking_eq numberedAfter ?_ ?_
  · rw [List.pairwise_append]
    refine ⟨((ranking_rises numbered).filter _).filter _, List.pairwise_singleton _ _, ?_⟩
    rintro ⟨other, mark⟩ isOther _ (_ | ⟨_, ⟨⟩⟩)
    have found := mem_ranking.mp (List.mem_of_mem_filter (List.mem_of_mem_filter isOther))
    exact Nat.lt_succ_of_le (numbered.counted found)
  · intro other mark
    rw [List.mem_append, List.mem_filter, List.mem_filter, mem_ranking, idleMarks]
    by_cases itself : id = other
    · simp [← itself, eq_comm (a := mark)]
    · by_cases isGone : goes other <;> simp [itself, isGone, Ne.symm itself]

private theorem idleEntries_of_drop (numbered : registry.Numbered) (numberedAfter : after.Numbered)
    (goes : ClientId → Prop) [DecidablePred goes]
    (idleMarks : ∀ other, after.idleMarks[other]? =
      if goes other then none else registry.idleMarks[other]?) :
    after.idleEntries = registry.idleEntries.filter fun entry => ¬ goes entry.1 := by
  rw [idleEntries_eq, ranking_of_drop numbered numberedAfter goes idleMarks, idleEntries_eq,
    List.filter_map]
  rfl

theorem idleEntries_of_mark (numbered : registry.Numbered) (numberedAfter : after.Numbered)
    {id : ClientId} {now : Int64} (goes : ClientId → Prop) [DecidablePred goes]
    (idleMarks : ∀ other, after.idleMarks[other]? =
      if id = other then some ⟨registry.marksSet + 1, now⟩
      else if goes other then none else registry.idleMarks[other]?) :
    after.idleEntries =
      IdleLine.rejoin (registry.idleEntries.filter fun entry => ¬ goes entry.1) id now := by
  rw [idleEntries_eq, ranking_of_mark numbered numberedAfter goes idleMarks, List.map_append,
    idleEntries_eq, IdleLine.rejoin, IdleLine.leave, List.filter_map, List.filter_map]
  rfl

end Ranking

/-! ### One call -/

section Step

variable {registry : ClientRegistry} {bindings : Bindings}

private theorem idleEntries_register (consistent : registry.Consistent)
    (represents : registry.Represents bindings) (id : ClientId) (connection : Connection)
    (option : String) (now : Int64) :
    (registry.register id connection option now).registry.idleEntries =
      IdleLine.perform bindings registry.idleEntries (.register id connection option now) := by
  rw [IdleLine.perform]
  by_cases same : registry.IsOn id connection.id
  · rw [register_same same, if_pos ((represents.isOn_iff id connection.id).mp same)]
  · have moved := (register_moved consistent same option now).2.2
    rw [if_neg (mt (represents.isOn_iff id connection.id).mpr same), IdleLine.vacate]
    simp only [← represents.isOn_iff]
    exact idleEntries_of_mark consistent.numbered (moved.consistent consistent).numbered
      (registry.IsOn · connection.id) moved.idleMarks

private theorem idleEntries_deregister (consistent : registry.Consistent)
    (represents : registry.Represents bindings) (connection : Connection) :
    (registry.deregister connection).registry.idleEntries =
      IdleLine.vacate bindings registry.idleEntries connection.id := by
  rw [IdleLine.vacate]
  simp only [← represents.isOn_iff]
  exact idleEntries_of_drop consistent.numbered (consistent.deregister connection).numbered
    (registry.IsOn · connection.id) (deregister_departed consistent connection).idleMarks

private theorem Represents.contains_clients (represents : registry.Represents bindings)
    (id : ClientId) : registry.clients.contains id = (bindings id).isSome := by
  rw [Std.TreeMap.contains_eq_isSome_getElem?, represents, Option.isSome_map]

/-- A mark is accepted for a client that is online. -/
theorem idle_eq_ok_iff (represents : registry.Represents bindings) (id : ClientId) (now : Int64) :
    (registry.idle id now).1 = .ok () ↔ (bindings id).isSome := by
  rw [ClientRegistry.idle, represents.contains_clients]
  split
  · next online => exact iff_of_true rfl online
  · next offline => exact iff_of_false (by simp) offline

private theorem idleEntries_idle (consistent : registry.Consistent)
    (represents : registry.Represents bindings) (id : ClientId) (now : Int64) :
    (registry.idle id now).2.idleEntries =
      IdleLine.perform bindings registry.idleEntries (.idle id now) := by
  have isOnline := represents.contains_clients id
  rw [ClientRegistry.idle, isOnline, IdleLine.perform]
  split
  · next online =>
    have isClient : id ∈ registry.clients := by rwa [Std.TreeMap.mem_iff_contains, isOnline]
    have marked := idleEntries_of_mark consistent.numbered
      (consistent.markIdle isClient now).numbered (fun _ => False) fun other => by
        rw [idleMarks_markIdle, if_neg not_false]
    simpa using marked
  · rfl

private theorem idleEntries_leaveIdle (consistent : registry.Consistent) (id : ClientId) :
    (registry.leaveIdle id).idleEntries = IdleLine.leave registry.idleEntries id := by
  refine idleEntries_of_drop consistent.numbered (consistent.leaveIdle id).numbered (id = ·) ?_
  intro other
  simp [leaveIdle, Std.TreeMap.getElem?_erase]

theorem idleEntries_perform (consistent : registry.Consistent)
    (represents : registry.Represents bindings) (call : RegistryCall) :
    (registry.perform call).idleEntries =
      IdleLine.perform bindings registry.idleEntries call := by
  cases call with
  | register id connection option now =>
    exact idleEntries_register consistent represents id connection option now
  | deregister connection => exact idleEntries_deregister consistent represents connection
  | idle id now => exact idleEntries_idle consistent represents id now
  | leaveIdle id => exact idleEntries_leaveIdle consistent id
  | setOption id option =>
    rw [ClientRegistry.perform, setOption_eq]
    rfl

end Step

/-! ### Runs -/

theorem idleEntries_after (calls : List RegistryCall) :
    (after calls).idleEntries = IdleLine.after calls := by
  induction calls using List.reverseRecOn with
  | nil =>
    have unmarked : (after []).idleMarks.toList = [] := rfl
    rw [idleEntries, unmarked, List.mergeSort_nil]
    rfl
  | append_singleton calls call inductionHypothesis =>
    rw [after_concat, IdleLine.after_concat, ← inductionHypothesis]
    exact idleEntries_perform (consistent_after calls) (represents_after calls) call

/-- Whatever the clock shows, forwards, backwards or always the same: after any calls, the idle
clients are listed in the order in which they were marked last, each with what the clock showed to
that call. A registration that is not void and a mark that is accepted put a client at the end of
the line; it leaves when it is taken into use, is deregistered, or loses its connection to another
client. With another clock, the same calls leave the same order. -/
theorem idle_in_order_of_marks (clock : Clock) (calls : List RegistryCall) :
    let made := RegistryCall.timed clock calls
    let registry := after made
    registry.idleEntries = IdleLine.after made ∧
      registry.sortedIdle = (IdleLine.after made).ids ∧
      (∀ id now, (registry.idle id now).1 = .ok () ↔ (Bindings.after made id).isSome) ∧
      ∀ other : Clock,
        (after (RegistryCall.timed other calls)).sortedIdle = registry.sortedIdle := by
  intro made registry
  refine ⟨idleEntries_after made, ?_, idle_eq_ok_iff (represents_after made), ?_⟩
  · rw [sortedIdle, idleEntries_after]
    rfl
  · intro other
    rw [sortedIdle, sortedIdle, idleEntries_after, idleEntries_after]
    exact IdleLine.ids_foldl_timed calls other clock rfl rfl

/-- Two clients are marked in turn while the clock runs backwards, and one of them loses its
connection to a third one. -/
example : (after (RegistryCall.timed (.stepping 100 (-10))
      [.register ⟨"u1"⟩ ⟨⟨"c1"⟩, "first"⟩ "" 0, .register ⟨"u2"⟩ ⟨⟨"c2"⟩, "second"⟩ "" 0,
        .idle ⟨"u1"⟩ 0, .idle ⟨"u9"⟩ 0, .register ⟨"u3"⟩ ⟨⟨"c2"⟩, "second"⟩ "" 0])).idleEntries =
    [(⟨"u1"⟩, 80), (⟨"u3"⟩, 60)] := by
  cbv

end ClientRegistry

end SocketGateway
