import SocketGateway.Proofs.Expiring.Entries
import SocketGateway.Proofs.Expiring.Reference

/-!
Contract: what an expiring map remembers of all that was put into it.

Owns:
- that calls on a purged map need no purging before;
- an account of what was put in and taken out: every entry is in the account, and as long as there
  is room for everything that did not expire, all of that is in the map.

Does not own: what happens when there is no room.
-/

namespace SocketGateway

/-- No more than `limit` keys have a property. -/
def AtMost {κ : Type} (limit : Nat) (holds : κ → Prop) : Prop :=
  ∀ keys : List κ, keys.Nodup → (∀ key ∈ keys, holds key) → keys.length ≤ limit

namespace Kept

variable {κ ν : Type} (kept : Kept κ ν) (ttl : Nat)

private theorem unexpired_unexpired {now later : Nat} (forward : now ≤ later) :
    (kept.unexpired ttl now).unexpired ttl later = kept.unexpired ttl later := by
  funext key
  simp only [unexpired, Option.filter_filter]
  congr
  funext stamped
  rw [← Bool.decide_and]
  exact decide_eq_decide.mpr ⟨And.right, fun ahead => ⟨by omega, ahead⟩⟩

private theorem unexpired_update [DecidableEq κ] (now : Nat) (key : κ)
    (stamped? : Option (Stamped ν)) :
    unexpired ttl now (Function.update (kept.unexpired ttl now) key stamped?) =
      unexpired ttl now (Function.update kept key stamped?) := by
  funext other
  by_cases same : other = key
  · simp [unexpired, same]
  · simp [unexpired, same]

end Kept

namespace ExpiringMap

variable {κ ν : Type} [Ord κ]

section Purged

variable (map : ExpiringMap κ ν) {now later : Nat}

theorem insert_purge (forward : now ≤ later) (key : κ) (value : ν) :
    (map.purge now).insert key value later = map.insert key value later := by
  rw [insert, insert, purge_purge map forward, ttl_purge]

theorem contains_purge (forward : now ≤ later) (key : κ) :
    (map.purge now).contains key later = map.contains key later := by
  rw [contains, contains, purge_purge map forward]

end Purged

/-- Every entry is in the account. -/
def Backed (map : ExpiringMap κ ν) (kept : Kept κ ν) : Prop :=
  ∀ (key : κ) (held : Held ν), map.entries[key]? = some held →
    (kept key).map (Stamped.held map.ttl) = some held

/-- Whatever did not expire by `now` is an entry, and nothing else is one after purging. -/
def Tracks (map : ExpiringMap κ ν) (kept : Kept κ ν) (now : Nat) : Prop :=
  Shows map.ttl (map.purge now).entries (kept.unexpired map.ttl now)

section Account

variable {map : ExpiringMap κ ν} {kept after : Kept κ ν} {now : Nat} {key : κ}

theorem Tracks.purge (tracks : map.Tracks kept now) : (map.purge now).Tracks kept now := by
  rw [Tracks, ttl_purge, purge_purge map (Nat.le_refl now)]
  exact tracks

theorem Tracks.take_eq (tracks : map.Tracks kept now) (key : κ) :
    (map.take key now).1 = (kept.unexpired map.ttl now key).map Stamped.value :=
  Shows.find?_eq tracks key

variable [Std.TransOrd κ]

theorem backed_new (ttl capacity : Nat) :
    (ExpiringMap.new ttl capacity : ExpiringMap κ ν).Backed fun _ => none := by
  simp [new, Backed]

theorem Backed.purge (backed : map.Backed kept) (now : Nat) : (map.purge now).Backed kept := by
  intro key held found
  rw [ttl_purge]
  exact backed key held (purge_within map now key held found)

theorem Tracks.contains_eq (tracks : map.Tracks kept now) (key : κ) :
    (map.contains key now).1 = (kept.unexpired map.ttl now key).isSome :=
  Shows.contains tracks key

theorem Backed.take (backed : map.Backed kept)
    (others : ∀ other, other ≠ key → after other = kept other) (now : Nat) :
    (map.take key now).2.Backed after := by
  intro other held found
  simp only [ExpiringMap.take, Std.TreeMap.getElem?_erase] at found
  split at found
  · cases found
  · next different =>
    rw [others other fun same => different (by rw [same, Std.ReflOrd.compare_self])]
    exact backed.purge now other held found

variable [Std.LawfulEqOrd κ]

theorem Backed.insert [DecidableEq κ] (backed : map.Backed kept) (key : κ) (value : ν)
    (now : Nat) :
    (map.insert key value now).Backed (Function.update kept key (some ⟨value, now⟩)) := by
  intro other held found
  rw [insert_eq] at found ⊢
  simp only [Std.TreeMap.getElem?_insert, ttl_roomFor] at found ⊢
  split at found
  · next same =>
    rw [← Std.LawfulEqOrd.eq_of_compare same, Function.update_self, ← Option.some.inj found]
    rfl
  · next different =>
    have notThis : other ≠ key := by
      rintro rfl
      exact different Std.ReflOrd.compare_self
    rw [Function.update_of_ne notThis]
    exact backed other held (purge_within map now other held
      (makeRoom_within key _ _ other held found))

theorem tracks_new (ttl capacity now : Nat) :
    (ExpiringMap.new ttl capacity : ExpiringMap κ ν).Tracks (fun _ => none) now := by
  refine Shows.unexpired (orderly_new ttl capacity) ?_ now
  intro key
  simp [new]

theorem Tracks.mono {later : Nat} (tracks : map.Tracks kept now) (orderly : map.Orderly now)
    (forward : now ≤ later) : map.Tracks kept later := by
  have purgedLater := Shows.unexpired orderly.purge (by rw [ttl_purge]; exact tracks) later
  rw [ttl_purge, purge_purge map forward, Kept.unexpired_unexpired _ _ forward] at purgedLater
  exact purgedLater

/-- Without a time to live, purging leaves nothing. -/
theorem Orderly.ttl_pos (orderly : map.Orderly now) (isKept : key ∈ (map.purge now).entries) :
    0 < map.ttl := by
  rw [Std.TreeMap.mem_iff_isSome_getElem?] at isKept
  obtain ⟨held, found⟩ := Option.isSome_iff_exists.mp isKept
  rw [orderly.getElem?_purge] at found
  have deadline := orderly.deadline_le found.1
  omega

/-- The entries may be accounted for by anything that agrees on what did not expire. -/
theorem tracks_of_shows {earlier : Kept κ ν} (orderly : map.Orderly now)
    (shows : Shows map.ttl map.entries earlier)
    (same : earlier.unexpired map.ttl now = after.unexpired map.ttl now) :
    map.Tracks after now := by
  rw [Tracks, ← same]
  exact shows.unexpired orderly now

variable [DecidableEq κ]

theorem Tracks.take (tracks : map.Tracks kept now) (orderly : map.Orderly now)
    (others : ∀ other, other ≠ key → after other = kept other)
    (gone : after.unexpired map.ttl now key = none) : (map.take key now).2.Tracks after now := by
  have ttl : (map.take key now).2.ttl = map.ttl := ttl_purge map now
  have shows : Shows (map.take key now).2.ttl (map.take key now).2.entries
      (Function.update (kept.unexpired map.ttl now) key none) := by
    rw [ttl]
    exact Shows.erase tracks key
  refine tracks_of_shows (orderly.take key) shows ?_
  rw [ttl, Kept.unexpired_update]
  funext other
  by_cases same : other = key
  · rw [same, gone, Kept.unexpired, Function.update_self]
    rfl
  · rw [Kept.unexpired, Kept.unexpired, Function.update_of_ne same, others other same]

/-- Nothing is dropped for an insertion as long as no more keys are in use after it than fit. -/
theorem Tracks.entries_roomFor (tracks : map.Tracks kept now) (orderly : map.Orderly now)
    (key : κ) (value : ν)
    (uncrowded : AtMost map.capacity fun other =>
      (Kept.unexpired map.ttl now (Function.update kept key (some ⟨value, now⟩)) other).isSome) :
    (map.roomFor key now).entries = (map.purge now).entries := by
  rcases (orderly.roomFor key).dropped with ⟨-, same⟩ | ⟨full, -⟩
  · exact same
  · rw [isFullFor, capacity_purge, Bool.and_eq_true, decide_eq_true_eq, Bool.not_eq_true',
      ← Bool.not_eq_true, Std.TreeMap.contains_iff_mem] at full
    have inUse : ∀ other ∈ (map.purge now).entries, (kept.unexpired map.ttl now other).isSome := by
      intro other isEntry
      rwa [← tracks.contains, Std.TreeMap.contains_iff_mem]
    have notEmpty : (map.purge now).entries.isEmpty = false := by
      have positive := orderly.positive
      rw [Std.TreeMap.isEmpty_eq_size_eq_zero, beq_eq_false_iff_ne]
      omega
    obtain ⟨present, isPresent⟩ := Std.TreeMap.isEmpty_eq_false_iff_exists_mem.mp notEmpty
    have lasting := orderly.ttl_pos isPresent
    have length := uncrowded (key :: (map.purge now).entries.keys)
      (List.nodup_cons.mpr ⟨fun isKey => full.2 (Std.TreeMap.mem_keys.mp isKey),
        Std.TreeMap.nodup_keys⟩) ?_
    · rw [List.length_cons, Std.TreeMap.length_keys] at length
      omega
    · intro other isKey
      rcases List.mem_cons.mp isKey with rfl | isEntry
      · simp [Kept.unexpired, lasting]
      · have different : other ≠ key := by
          rintro rfl
          exact full.2 (Std.TreeMap.mem_keys.mp isEntry)
        rw [Kept.unexpired, Function.update_of_ne different]
        exact inUse other (Std.TreeMap.mem_keys.mp isEntry)

theorem Tracks.insert (tracks : map.Tracks kept now) (orderly : map.Orderly now)
    (key : κ) (value : ν)
    (uncrowded : AtMost map.capacity fun other =>
      (Kept.unexpired map.ttl now (Function.update kept key (some ⟨value, now⟩)) other).isSome) :
    (map.insert key value now).Tracks (Function.update kept key (some ⟨value, now⟩)) now := by
  have ttl : (map.insert key value now).ttl = map.ttl := ttl_roomFor map now key
  have entries : (map.insert key value now).entries =
      (map.purge now).entries.insert key ⟨value, now + map.ttl⟩ := by
    rw [insert_eq, tracks.entries_roomFor orderly key value uncrowded]
  have shows : Shows (map.insert key value now).ttl (map.insert key value now).entries
      (Function.update (kept.unexpired map.ttl now) key (some ⟨value, now⟩)) := by
    rw [ttl, entries]
    exact Shows.insert tracks key value now
  exact tracks_of_shows (orderly.insert key value) shows (by rw [ttl, Kept.unexpired_update])

end Account

end ExpiringMap

end SocketGateway
