import Mathlib.Algebra.Order.BigOperators.Group.List
import Mathlib.Data.List.Induction
import Mathlib.Data.Set.Card
import SocketGateway.Proofs.Expiring.Deadlines
import SocketGateway.Proofs.History

/-!
Contract: an expiring map answers as a map from keys to values with the times of their insertion.

Owns:
- the calls on an expiring map and their answers;
- the reference: before every call it forgets what expired, and an insertion into a full map drops
  one of the oldest values, whichever it is;
- that an expiring map with all its records answers as the reference does, as long as time does not
  go back, and holds the same values under the same keys.

Does not own: which one of several oldest values goes.
-/

namespace SocketGateway

/-- A value, and when it was inserted. -/
structure Stamped (ν : Type) where
  value : ν
  since : Nat

def Stamped.held {ν : Type} (ttl : Nat) (stamped : Stamped ν) : Held ν :=
  ⟨stamped.value, stamped.since + ttl⟩

inductive MapCall (κ ν : Type) where
  | insert (key : κ) (value : ν) (now : Nat)
  | take (key : κ) (now : Nat)
  | contains (key : κ) (now : Nat)
  | purge (now : Nat)
  | size
  | isEmpty

/-- The time of a call, if it has one. -/
def MapCall.time? {κ ν : Type} : MapCall κ ν → Option Nat
  | .insert _ _ now => some now
  | .take _ now => some now
  | .contains _ now => some now
  | .purge now => some now
  | .size => none
  | .isEmpty => none

inductive MapAnswer (ν : Type) where
  | done
  | taken (value? : Option ν)
  | found (isThere : Bool)
  | counted (number : Nat)
  | isEmpty (nothing : Bool)
deriving DecidableEq, Repr

/-- Time does not go back from one call to the next. -/
def InOrder {κ ν : Type} (calls : List (MapCall κ ν)) : Prop :=
  (calls.filterMap MapCall.time?).Pairwise (· ≤ ·)

/-- What is kept under each key, and since when. -/
abbrev Kept (κ ν : Type) := κ → Option (Stamped ν)

namespace Kept

variable {κ ν : Type}

/-- What is left when everything that was inserted `ttl` ago or earlier is gone. -/
def unexpired (ttl now : Nat) (kept : Kept κ ν) : Kept κ ν :=
  fun key => (kept key).filter fun stamped => now < stamped.since + ttl

noncomputable def size (kept : Kept κ ν) : Nat := {key | (kept key).isSome}.ncard

/-- No value was inserted before that of `victim`. -/
def IsOldest (kept : Kept κ ν) (victim : κ) : Prop :=
  ∃ oldest, kept victim = some oldest ∧
    ∀ other stamped, kept other = some stamped → oldest.since ≤ stamped.since

variable [DecidableEq κ]

/-- What the reference answers to a call, and what it keeps after it. -/
inductive Step (ttl capacity : Nat) (kept : Kept κ ν) :
    MapCall κ ν → MapAnswer ν → Kept κ ν → Prop where
  | insert {key : κ} {value : ν} {now : Nat}
      (room : (kept.unexpired ttl now key).isSome ∨ (kept.unexpired ttl now).size < capacity) :
      Step ttl capacity kept (.insert key value now) .done
        (Function.update (kept.unexpired ttl now) key (some ⟨value, now⟩))
  | insertFull {key : κ} {value : ν} {now : Nat} {victim : κ}
      (absent : kept.unexpired ttl now key = none)
      (full : capacity ≤ (kept.unexpired ttl now).size)
      (oldest : (kept.unexpired ttl now).IsOldest victim) :
      Step ttl capacity kept (.insert key value now) .done
        (Function.update (Function.update (kept.unexpired ttl now) victim none) key
          (some ⟨value, now⟩))
  | take {key : κ} {now : Nat} :
      Step ttl capacity kept (.take key now)
        (.taken ((kept.unexpired ttl now key).map Stamped.value))
        (Function.update (kept.unexpired ttl now) key none)
  | contains {key : κ} {now : Nat} :
      Step ttl capacity kept (.contains key now) (.found (kept.unexpired ttl now key).isSome)
        (kept.unexpired ttl now)
  | purge {now : Nat} : Step ttl capacity kept (.purge now) .done (kept.unexpired ttl now)
  | size : Step ttl capacity kept .size (.counted kept.size) kept
  | isEmpty : Step ttl capacity kept .isEmpty (.isEmpty (kept.size = 0)) kept

/-- The answers of the reference to a row of calls, and what it keeps in the end. -/
inductive Run (ttl capacity : Nat) : List (MapCall κ ν) → List (MapAnswer ν) → Kept κ ν → Prop where
  | start : Run ttl capacity [] [] fun _ => none
  | next {calls : List (MapCall κ ν)} {answers : List (MapAnswer ν)} {kept after : Kept κ ν}
      {call : MapCall κ ν} {answer : MapAnswer ν} (before : Run ttl capacity calls answers kept)
      (step : Step ttl capacity kept call answer after) :
      Run ttl capacity (calls ++ [call]) (answers ++ [answer]) after

end Kept

namespace ExpiringMap

variable {κ ν : Type} [Ord κ]

def perform (map : ExpiringMap κ ν) : MapCall κ ν → MapAnswer ν × ExpiringMap κ ν
  | .insert key value now => (.done, map.insert key value now)
  | .take key now => let (value?, after) := map.take key now; (.taken value?, after)
  | .contains key now => let (isThere, after) := map.contains key now; (.found isThere, after)
  | .purge now => (.done, map.purge now)
  | .size => (.counted map.size, map)
  | .isEmpty => (.isEmpty map.isEmpty, map)

private theorem settings_perform (map : ExpiringMap κ ν) (call : MapCall κ ν) :
    (map.perform call).2.ttl = map.ttl ∧ (map.perform call).2.capacity = map.capacity := by
  cases call with
  | insert key value now => exact ⟨ttl_roomFor map now key, capacity_roomFor map now key⟩
  | take key now => exact ⟨ttl_purge map now, capacity_purge map now⟩
  | contains key now => exact ⟨ttl_purge map now, capacity_purge map now⟩
  | purge now => exact ⟨ttl_purge map now, capacity_purge map now⟩
  | size => exact ⟨rfl, rfl⟩
  | isEmpty => exact ⟨rfl, rfl⟩

/-- The entries are those of the reference, with their deadlines. -/
def Shows (ttl : Nat) (entries : Std.TreeMap κ (Held ν)) (kept : Kept κ ν) : Prop :=
  ∀ key, entries[key]? = (kept key).map (Stamped.held ttl)

section Shows

variable {ttl : Nat} {entries : Std.TreeMap κ (Held ν)} {kept : Kept κ ν}

theorem Shows.isOldest (shows : Shows ttl entries kept) {victim : κ}
    (oldest : IsOldest entries victim) : kept.IsOldest victim := by
  obtain ⟨held, found, minimal⟩ := oldest
  rw [shows] at found
  obtain ⟨stamped, isKept, rfl⟩ := Option.map_eq_some_iff.mp found
  refine ⟨stamped, isKept, ?_⟩
  intro other later isLater
  have deadlines := minimal other (later.held ttl) (by rw [shows, isLater]; rfl)
  exact Nat.le_of_add_le_add_right deadlines

theorem Shows.find?_eq {map : ExpiringMap κ ν} (shows : Shows ttl map.entries kept) (key : κ) :
    map.find? key = (kept key).map Stamped.value := by
  rw [find?, shows, Option.map_map]
  rfl

variable [Std.TransOrd κ]

theorem Shows.contains (shows : Shows ttl entries kept) (key : κ) :
    entries.contains key = (kept key).isSome := by
  rw [Std.TreeMap.contains_eq_isSome_getElem?, shows, Option.isSome_map]

variable [Std.LawfulEqOrd κ]

private theorem ncard_keys (entries : Std.TreeMap κ (Held ν)) :
    {key : κ | (entries[key]?).isSome}.ncard = entries.size := by
  classical
  have members : {key : κ | (entries[key]?).isSome} = (entries.keys.toFinset : Set κ) := by
    ext key
    simp
  rw [members, Set.ncard_coe_finset, List.toFinset_card_of_nodup Std.TreeMap.nodup_keys,
    Std.TreeMap.length_keys]

theorem Shows.size (shows : Shows ttl entries kept) : entries.size = kept.size := by
  rw [← ncard_keys, Kept.size]
  congr
  ext key
  rw [shows, Option.isSome_map]

theorem Shows.unexpired {map : ExpiringMap κ ν} {last : Nat} (orderly : map.Orderly last)
    (shows : Shows map.ttl map.entries kept) (now : Nat) :
    Shows map.ttl (map.purge now).entries (kept.unexpired map.ttl now) := by
  intro key
  ext held
  rw [orderly.getElem?_purge, shows, Kept.unexpired]
  cases kept key with
  | none => simp
  | some stamped =>
    by_cases ahead : now < stamped.since + map.ttl
    · simp only [Option.map_some, Option.some.injEq, Option.filter_some, ahead, decide_true,
        ↓reduceIte, and_iff_left_iff_imp]
      rintro rfl
      exact ahead
    · simp only [Option.map_some, Option.some.injEq, Option.filter_some, ahead, decide_false,
        Bool.false_eq_true, ↓reduceIte, Option.map_none, reduceCtorEq, iff_false, not_and]
      rintro rfl
      exact ahead

variable [DecidableEq κ]

theorem Shows.erase (shows : Shows ttl entries kept) (key : κ) :
    Shows ttl (entries.erase key) (Function.update kept key none) := by
  intro other
  rw [Std.TreeMap.getElem?_erase]
  by_cases same : key = other
  · simp [same]
  · simp [same, Ne.symm same, shows other]

theorem Shows.insert (shows : Shows ttl entries kept) (key : κ) (value : ν) (now : Nat) :
    Shows ttl (entries.insert key ⟨value, now + ttl⟩)
      (Function.update kept key (some ⟨value, now⟩)) := by
  intro other
  rw [Std.TreeMap.getElem?_insert]
  by_cases same : key = other
  · simp [same, Stamped.held]
  · simp [same, Ne.symm same, shows other]

end Shows

section Calls

variable [Std.TransOrd κ] [Std.LawfulEqOrd κ]

theorem Orderly.perform {map : ExpiringMap κ ν} {now : Nat} (orderly : map.Orderly now)
    {call : MapCall κ ν} (atTime : ∀ time, call.time? = some time → time = now) :
    (map.perform call).2.Orderly now := by
  cases call with
  | insert key value time =>
    obtain rfl := atTime time rfl
    exact orderly.insert key value
  | take key time =>
    obtain rfl := atTime time rfl
    exact orderly.take key
  | contains key time =>
    obtain rfl := atTime time rfl
    exact orderly.purge
  | purge time =>
    obtain rfl := atTime time rfl
    exact orderly.purge
  | size => exact orderly
  | isEmpty => exact orderly

variable [DecidableEq κ] {map : ExpiringMap κ ν} {kept : Kept κ ν}

theorem Shows.insert_step {now : Nat} (orderly : map.Orderly now)
    (shows : Shows map.ttl map.entries kept) (key : κ) (value : ν) :
    ∃ after, Kept.Step map.ttl map.capacity kept (.insert key value now) .done after ∧
      Shows map.ttl (map.insert key value now).entries after := by
  have unexpired := shows.unexpired orderly now
  rw [insert_eq]
  rcases (orderly.roomFor key).dropped with ⟨room, same⟩ | ⟨full, victim, oldest, left⟩
  · refine ⟨_, .insert ?_, ?_⟩
    · rw [isFullFor, capacity_purge, Bool.and_eq_false_iff, decide_eq_false_iff_not, Nat.not_le,
        Bool.not_eq_false', unexpired.contains, unexpired.size] at room
      exact room.symm
    · rw [same]
      exact unexpired.insert key value now
  · rw [isFullFor, capacity_purge, Bool.and_eq_true, decide_eq_true_eq, Bool.not_eq_true',
      unexpired.contains, unexpired.size, Option.isSome_eq_false_iff,
      Option.isNone_iff_eq_none] at full
    refine ⟨_, .insertFull full.2 full.1 (unexpired.isOldest oldest), ?_⟩
    rw [left]
    exact (unexpired.erase victim).insert key value now

theorem Shows.perform {call : MapCall κ ν}
    (orderly : ∀ now, call.time? = some now → map.Orderly now)
    (shows : Shows map.ttl map.entries kept) :
    ∃ after, Kept.Step map.ttl map.capacity kept call (map.perform call).1 after ∧
      Shows map.ttl (map.perform call).2.entries after := by
  cases call with
  | insert key value now => exact shows.insert_step (orderly now rfl) key value
  | take key now =>
    have unexpired := shows.unexpired (orderly now rfl) now
    refine ⟨_, ?_, unexpired.erase key⟩
    rw [ExpiringMap.perform, ExpiringMap.take, unexpired.find?_eq]
    exact .take
  | contains key now =>
    have unexpired := shows.unexpired (orderly now rfl) now
    refine ⟨_, ?_, unexpired⟩
    rw [ExpiringMap.perform, ExpiringMap.contains, unexpired.contains]
    exact .contains
  | purge now => exact ⟨_, .purge, shows.unexpired (orderly now rfl) now⟩
  | size =>
    refine ⟨_, ?_, shows⟩
    rw [ExpiringMap.perform, ExpiringMap.size, shows.size]
    exact .size
  | isEmpty =>
    refine ⟨_, ?_, shows⟩
    rw [ExpiringMap.perform, ExpiringMap.isEmpty, Std.TreeMap.isEmpty_eq_size_eq_zero, shows.size]
    exact .isEmpty

end Calls

/-! ### Rows of calls -/

section Rows

/-- The map after a row of calls. -/
def afterCalls (ttl capacity : Nat) (calls : List (MapCall κ ν)) : ExpiringMap κ ν :=
  stateAfter perform (.new ttl capacity) calls

theorem settings_afterCalls (ttl capacity : Nat) (calls : List (MapCall κ ν)) :
    (afterCalls ttl capacity calls).ttl = ttl ∧
      (afterCalls ttl capacity calls).capacity = max 1 capacity := by
  induction calls using List.reverseRecOn with
  | nil => exact ⟨rfl, rfl⟩
  | append_singleton calls call inductionHypothesis =>
    obtain ⟨sameTtl, sameCapacity⟩ := settings_perform (afterCalls ttl capacity calls) call
    rw [afterCalls, stateAfter_concat]
    exact ⟨sameTtl.trans inductionHypothesis.1, sameCapacity.trans inductionHypothesis.2⟩

/-- None of the calls was made after `now`. -/
def Until (now : Nat) (calls : List (MapCall κ ν)) : Prop :=
  ∀ time ∈ calls.filterMap MapCall.time?, time ≤ now

omit [Ord κ] in
theorem inOrder_concat {calls : List (MapCall κ ν)} {call : MapCall κ ν}
    (ordered : InOrder (calls ++ [call])) :
    InOrder calls ∧ ∀ now, call.time? = some now → Until now calls := by
  rw [InOrder, List.filterMap_append, List.pairwise_append] at ordered
  refine ⟨ordered.1, ?_⟩
  intro now atTime time isTime
  exact ordered.2.2 time isTime now (by simp [atTime])

omit [Ord κ] in
theorem until_concat {calls : List (MapCall κ ν)} {call : MapCall κ ν} {now : Nat}
    (past : Until now (calls ++ [call])) :
    Until now calls ∧ ∀ time, call.time? = some time → time ≤ now := by
  refine ⟨fun time isTime => past time (by simp [isTime]), ?_⟩
  intro time atTime
  exact past time (by simp [atTime])

variable [Std.TransOrd κ] [Std.LawfulEqOrd κ]

theorem orderly_afterCalls (ttl capacity : Nat) {calls : List (MapCall κ ν)}
    (ordered : InOrder calls) {now : Nat} (past : Until now calls) :
    (afterCalls ttl capacity calls).Orderly now := by
  induction calls using List.reverseRecOn generalizing now with
  | nil => exact (orderly_new ttl capacity).mono (Nat.zero_le now)
  | append_singleton calls call inductionHypothesis =>
    obtain ⟨earlier, notBefore⟩ := inOrder_concat ordered
    obtain ⟨pastEarlier, pastCall⟩ := until_concat past
    rw [afterCalls, stateAfter_concat]
    cases atTime : call.time? with
    | none =>
      refine (inductionHypothesis earlier pastEarlier).perform ?_
      rw [atTime]
      exact nofun
    | some time =>
      refine ((inductionHypothesis earlier (notBefore time atTime)).perform ?_).mono
        (pastCall time atTime)
      rw [atTime]
      exact fun _ same => (Option.some.inj same).symm

/-- What was inserted last under a key can be taken out until its own deadline. -/
theorem Orderly.take_insert {map : ExpiringMap κ ν} {now later : Nat} (orderly : map.Orderly now)
    (key : κ) (value : ν) (forward : now ≤ later) (inTime : later < now + map.ttl) :
    ((map.insert key value now).take key later).1 = some value := by
  have kept : ((map.insert key value now).purge later).entries[key]? =
      some ⟨value, now + map.ttl⟩ := by
    rw [((orderly.insert key value).mono forward).getElem?_purge, insert_eq]
    exact ⟨Std.TreeMap.getElem?_insert_self, inTime⟩
  rw [ExpiringMap.take, find?, kept]
  rfl

variable [DecidableEq κ]

theorem shows_afterCalls (ttl capacity : Nat) {calls : List (MapCall κ ν)}
    (ordered : InOrder calls) :
    ∃ kept, Kept.Run ttl (max 1 capacity) calls (answersTo perform (.new ttl capacity) calls) kept ∧
      Shows ttl (afterCalls ttl capacity calls).entries kept := by
  induction calls using List.reverseRecOn with
  | nil => exact ⟨_, .start, fun key => by simp [afterCalls, stateAfter, new]⟩
  | append_singleton calls call inductionHypothesis =>
    obtain ⟨earlier, notBefore⟩ := inOrder_concat ordered
    obtain ⟨kept, run, shows⟩ := inductionHypothesis earlier
    obtain ⟨sameTtl, sameCapacity⟩ := settings_afterCalls ttl capacity calls
    have showsNow : Shows (afterCalls ttl capacity calls).ttl
        (afterCalls ttl capacity calls).entries kept := by
      rw [sameTtl]
      exact shows
    obtain ⟨after, step, showsAfter⟩ := Shows.perform
      (fun now atTime => orderly_afterCalls ttl capacity earlier (notBefore now atTime)) showsNow
    rw [sameTtl, sameCapacity] at step
    rw [sameTtl] at showsAfter
    rw [answersTo_concat, afterCalls, stateAfter_concat]
    exact ⟨after, run.next step, showsAfter⟩

/-- In any row of calls in which time does not go back, an expiring map answers as the reference,
and keeps the same values. It never holds more than its capacity, and what is inserted can be taken
out until its own deadline, whatever was inserted under its key before. -/
theorem answers_as_reference (ttl capacity : Nat) (calls : List (MapCall κ ν))
    (ordered : InOrder calls) :
    (∃ kept, Kept.Run ttl (max 1 capacity) calls
      (answersTo perform (.new ttl capacity) calls) kept ∧
      Shows ttl (afterCalls ttl capacity calls).entries kept) ∧
    (afterCalls ttl capacity calls).size ≤ max 1 capacity ∧
    ∀ key value now later, Until now calls → now ≤ later → later < now + ttl →
      (((afterCalls ttl capacity calls).insert key value now).take key later).1 = some value := by
  obtain ⟨sameTtl, sameCapacity⟩ := settings_afterCalls ttl capacity calls
  refine ⟨shows_afterCalls ttl capacity ordered, ?_, ?_⟩
  · have past : Until (calls.filterMap MapCall.time?).sum calls :=
      fun time isTime => List.single_le_sum (fun _ _ => Nat.zero_le _) time isTime
    have bounded := (orderly_afterCalls ttl capacity ordered past).bounded
    rwa [sameCapacity] at bounded
  · intro key value now later past forward inTime
    rw [← sameTtl] at inTime
    exact (orderly_afterCalls ttl capacity ordered past).take_insert key value forward inTime

end Rows

/-- A key is inserted again before a map for two keys has to make room, and once more after its
first deadline. -/
def refreshing : List (MapCall Nat String) :=
  [.insert 1 "early" 0, .insert 2 "other" 1, .insert 1 "late" 3, .insert 3 "third" 4,
    .contains 2 4, .size, .contains 1 7, .take 1 7, .purge 8, .size, .contains 3 9, .isEmpty]

theorem refreshing_answered :
    InOrder refreshing ∧
      (∃ kept, Kept.Run 5 2 refreshing
        [.done, .done, .done, .done, .found false, .counted 2, .found true, .taken (some "late"),
          .done, .counted 1, .found false, .isEmpty true] kept ∧
        Shows 5 (afterCalls 5 2 refreshing).entries kept) ∧
      (afterCalls 5 2 refreshing).size ≤ 2 ∧
      (((afterCalls 5 2 refreshing).insert 3 "again" 9).take 3 13).1 = some "again" := by
  have ordered : InOrder refreshing := by
    unfold InOrder
    decide
  have past : Until 9 refreshing := by
    unfold Until
    decide
  obtain ⟨⟨kept, run, shows⟩, bounded, lasts⟩ := answers_as_reference 5 2 refreshing ordered
  refine ⟨ordered, ⟨kept, ?_, shows⟩, bounded, lasts 3 "again" 9 13 past (by decide) (by decide)⟩
  have answers : answersTo perform (.new 5 2) refreshing =
      [.done, .done, .done, .done, .found false, .counted 2, .found true, .taken (some "late"),
        .done, .counted 1, .found false, .isEmpty true] := by
    decide +kernel
  rw [answers] at run
  exact run

end ExpiringMap

end SocketGateway
