import SocketGateway.PendingBinds
import SocketGateway.Proofs.Expiring.Memory

/-!
Contract: every authenticated handshake is handed over to at most one connect event, and connect
events that repeat one are told apart.

Owns:
- histories of the two tables of the handover, with what each connect event was told;
- that a connect event is given the last bind stashed under its token, in time, and that no other
  one is given the same;
- what exactly a connect event is told, as long as neither table is crowded;
- that a repetition changes nothing.

Time does not go back in these histories.

Does not own: where tokens come from, or what an admitted connect event does.
-/

namespace SocketGateway

inductive HandoverEvent where
  | stash (token : CorrelationToken) (bind : PendingBind) (now : Nat)
  | connect (token : CorrelationToken) (now : Nat)

/-- An event, and what a connect event was told. -/
inductive Handled where
  | stashed (token : CorrelationToken) (bind : PendingBind) (now : Nat)
  | connected (token : CorrelationToken) (now : Nat) (admission : Admission)
deriving DecidableEq, Repr

def HandoverEvent.time : HandoverEvent → Nat
  | .stash _ _ now => now
  | .connect _ now => now

namespace Handled

def time : Handled → Nat
  | .stashed _ _ now => now
  | .connected _ now _ => now

def event : Handled → HandoverEvent
  | .stashed token bind now => .stash token bind now
  | .connected token now _ => .connect token now

/-- What waits under a token afterwards, if the event changes that: a bind that was stashed, or
nothing any more, as the bind was given to a connect event. -/
def leaves? (token : CorrelationToken) : Handled → Option (Option (Stamped PendingBind))
  | .stashed other bind now => if other = token then some (some ⟨bind, now⟩) else none
  | .connected other _ (.admitted (some _)) => if other = token then some none else none
  | .connected _ _ _ => none

/-- The time of a connect event of a token, if it was admitted. -/
def admits? (token : CorrelationToken) : Handled → Option Nat
  | .connected other now (.admitted _) => if other = token then some now else none
  | _ => none

end Handled

/-- The last bind that was stashed under each token, if no connect event was given it. -/
def waiting (history : List Handled) : Kept CorrelationToken PendingBind :=
  fun token => (history.filterMap (Handled.leaves? token)).getLast?.join

/-- When a connect event of the token was admitted last. -/
def lastAdmission (history : List Handled) (token : CorrelationToken) : Option Nat :=
  (history.filterMap (Handled.admits? token)).getLast?

/-- The waiting bind of a token, as long as it is younger than `pendingTtl`. -/
def available (pendingTtl : Nat) (history : List Handled) (token : CorrelationToken) (now : Nat) :
    Option PendingBind :=
  ((waiting history).unexpired pendingTtl now token).map Stamped.value

/-- The last admission of the token is younger than `onceBoundTtl`. -/
def Suppressed (onceBoundTtl : Nat) (history : List Handled) (token : CorrelationToken)
    (now : Nat) : Prop :=
  ∃ since, lastAdmission history token = some since ∧ now < since + onceBoundTtl

/-- At no time there were more tokens with a bind available, or more suppressed ones, than a table
has room for. -/
def Uncrowded (pendingTtl onceBoundTtl : Nat) (history : List Handled) : Prop :=
  ∀ earlier handled, earlier ++ [handled] <+: history →
    AtMost maxPending (fun token =>
      (available pendingTtl (earlier ++ [handled]) token handled.time).isSome) ∧
    AtMost maxPending (fun token =>
      Suppressed onceBoundTtl (earlier ++ [handled]) token handled.time)

/-- A connect event, by its number, was given the bind of a stash: it is of the same token and in
time, and nothing else was stashed under the token since. -/
def HandsOver (pendingTtl : Nat) (history : List Handled) (stash connect : Nat) : Prop :=
  ∃ token bind since now, history[stash]? = some (.stashed token bind since) ∧
    history[connect]? = some (.connected token now (.admitted (some bind))) ∧
    stash < connect ∧ now < since + pendingTtl ∧
    ∀ between other time, stash < between → between < connect →
      history[between]? ≠ some (.stashed token other time)

namespace PendingBinds

def handle (table : PendingBinds) : HandoverEvent → Handled × PendingBinds
  | .stash token bind now => (.stashed token bind now, table.stash token bind now)
  | .connect token now =>
    let (admission, after) := table.beginConnect token now
    (.connected token now admission, after)

/-- What came of the events, starting with empty tables. -/
def history (pendingTtl onceBoundTtl : Nat) (events : List HandoverEvent) : List Handled :=
  answersTo handle (.new pendingTtl onceBoundTtl) events

/-- The tables after the events. -/
def afterHandover (pendingTtl onceBoundTtl : Nat) (events : List HandoverEvent) : PendingBinds :=
  stateAfter handle (.new pendingTtl onceBoundTtl) events

end PendingBinds

/-! ### Accounts -/

section Accounts

variable (history : List Handled) (token : CorrelationToken)

theorem waiting_concat (handled : Handled) :
    waiting (history ++ [handled]) token =
      (handled.leaves? token).getD (waiting history token) := by
  unfold waiting
  cases left : handled.leaves? token <;> simp [left]

private theorem lastAdmission_concat (handled : Handled) :
    lastAdmission (history ++ [handled]) token =
      (handled.admits? token).or (lastAdmission history token) := by
  unfold lastAdmission
  cases admitted : handled.admits? token <;> simp [admitted]

/-- The admissions, as an account of what was put into a table. -/
def marks (history : List Handled) : Kept CorrelationToken Unit :=
  fun token => (lastAdmission history token).map fun since => ⟨(), since⟩

private theorem suppressed_iff (onceBoundTtl now : Nat) :
    Suppressed onceBoundTtl history token now ↔
      ((marks history).unexpired onceBoundTtl now token).isSome := by
  unfold Suppressed Kept.unexpired marks
  cases lastAdmission history token <;> simp [Option.isSome_filter]

private theorem waiting_stashed (bind : PendingBind) (now : Nat) :
    waiting (history ++ [.stashed token bind now]) =
      Function.update (waiting history) token (some ⟨bind, now⟩) := by
  funext other
  rw [waiting_concat, Handled.leaves?]
  by_cases same : token = other
  · simp [same]
  · simp [same, Ne.symm same]

private theorem marks_stashed (bind : PendingBind) (now : Nat) :
    marks (history ++ [.stashed token bind now]) = marks history := by
  funext other
  rw [marks, lastAdmission_concat]
  rfl

private theorem waiting_duplicate (now : Nat) :
    waiting (history ++ [.connected token now .duplicate]) = waiting history := by
  funext other
  rw [waiting_concat]
  rfl

private theorem marks_duplicate (now : Nat) :
    marks (history ++ [.connected token now .duplicate]) = marks history := by
  funext other
  rw [marks, lastAdmission_concat]
  rfl

private theorem waiting_admitted_of_ne (now : Nat) (bind? : Option PendingBind)
    {other : CorrelationToken} (different : other ≠ token) :
    waiting (history ++ [.connected token now (.admitted bind?)]) other =
      waiting history other := by
  rw [waiting_concat]
  cases bind? <;> simp [Handled.leaves?, different.symm]

private theorem marks_admitted (now : Nat) (bind? : Option PendingBind) :
    marks (history ++ [.connected token now (.admitted bind?)]) =
      Function.update (marks history) token (some ⟨(), now⟩) := by
  funext other
  rw [marks, lastAdmission_concat, Handled.admits?]
  by_cases same : token = other
  · simp [same]
  · simp [same, Ne.symm same, marks]

end Accounts

theorem Uncrowded.concat {pendingTtl onceBoundTtl : Nat} {history : List Handled}
    {handled : Handled} (uncrowded : Uncrowded pendingTtl onceBoundTtl (history ++ [handled])) :
    Uncrowded pendingTtl onceBoundTtl history :=
  fun earlier last isPrefix => uncrowded earlier last (isPrefix.trans (List.prefix_append _ _))

private theorem exists_split {α : Type} {items : List α} {number : Nat} {item : α}
    (isAt : items[number]? = some item) :
    ∃ before after, items = before ++ item :: after ∧ before.length = number := by
  obtain ⟨inside, rfl⟩ := List.getElem?_eq_some_iff.mp isAt
  refine ⟨items.take number, items.drop (number + 1), by simp, ?_⟩
  rw [List.length_take, Nat.min_eq_left (Nat.le_of_lt inside)]

private theorem mem_between {α : Type} {earlier later after : List α} {first second item : α}
    {number : Nat} (behind : earlier.length < number)
    (ahead : number < (earlier ++ first :: later).length)
    (isAt : (earlier ++ first :: later ++ second :: after)[number]? = some item) :
    item ∈ later := by
  rw [List.getElem?_append_left ahead] at isAt
  obtain ⟨rest, rfl⟩ : ∃ rest, number = earlier.length + (rest + 1) :=
    ⟨number - earlier.length - 1, by omega⟩
  rw [List.getElem?_append_right (by omega), Nat.add_sub_cancel_left,
    List.getElem?_cons_succ] at isAt
  exact List.mem_of_getElem? isAt

/-- Only a stash leaves a bind. -/
theorem Handled.eq_stashed_of_leaves? {handled : Handled} {token : CorrelationToken}
    {stamped : Stamped PendingBind} (left : handled.leaves? token = some (some stamped)) :
    handled = .stashed token stamped.value stamped.since := by
  cases handled with
  | stashed other bind now =>
    simp only [leaves?, Option.ite_none_right_eq_some, Option.some.injEq] at left
    obtain ⟨rfl, rfl⟩ := left
    rfl
  | connected other now admission =>
    cases admission with
    | duplicate => cases left
    | admitted bind? => cases bind? <;> simp [leaves?] at left

/-- A bind that waits was stashed by an event, and nothing was stashed or given away under its token
since. -/
theorem stash_of_waiting {history : List Handled} {token : CorrelationToken}
    {stamped : Stamped PendingBind} (waits : waiting history token = some stamped) :
    ∃ earlier later, history =
        earlier ++ Handled.stashed token stamped.value stamped.since :: later ∧
      ∀ handled ∈ later, handled.leaves? token = none := by
  induction history using List.reverseRecOn with
  | nil => cases waits
  | append_singleton history last inductionHypothesis =>
    rw [waiting_concat] at waits
    cases left : last.leaves? token with
    | none =>
      rw [left] at waits
      obtain ⟨earlier, later, rfl, untouched⟩ := inductionHypothesis waits
      refine ⟨earlier, later ++ [last], by simp, ?_⟩
      intro handled among
      rcases List.mem_append.mp among with before | isLast
      · exact untouched handled before
      · rw [List.mem_singleton.mp isLast]
        exact left
    | some now =>
      rw [left, Option.getD_some] at waits
      subst waits
      exact ⟨history, [], by rw [Handled.eq_stashed_of_leaves? left], nofun⟩

def Handled.token : Handled → CorrelationToken
  | .stashed token _ _ => token
  | .connected token _ _ => token

private theorem Handled.token_of_admits? {handled : Handled} {token : CorrelationToken}
    {since : Nat} (admitted : handled.admits? token = some since) : handled.token = token := by
  cases handled with
  | stashed other bind now => cases admitted
  | connected other now admission =>
    cases admission with
    | duplicate => cases admitted
    | admitted bind? =>
      simp only [admits?, Option.ite_none_right_eq_some] at admitted
      exact admitted.1

/-- A history has no more tokens than events. -/
theorem atMost_of_length_le {history : List Handled} {holds : CorrelationToken → Prop} {limit : Nat}
    (named : ∀ token, holds token → ∃ handled ∈ history, handled.token = token)
    (short : history.length ≤ limit) : AtMost limit holds := by
  intro tokens different holding
  have among : tokens ⊆ history.map Handled.token := by
    intro token isHeld
    obtain ⟨handled, isHandled, rfl⟩ := named token (holding token isHeld)
    exact List.mem_map_of_mem isHandled
  have length := (different.subperm among).length_le
  rw [List.length_map] at length
  exact Nat.le_trans length short

/-- No table is crowded by as many events as it has room for. -/
theorem uncrowded_of_length_le {pendingTtl onceBoundTtl : Nat} {history : List Handled}
    (short : history.length ≤ maxPending) : Uncrowded pendingTtl onceBoundTtl history := by
  intro earlier handled isPrefix
  have shortToo := Nat.le_trans isPrefix.length_le short
  refine ⟨atMost_of_length_le ?_ shortToo, atMost_of_length_le ?_ shortToo⟩
  · intro token isAvailable
    rw [available, Option.isSome_map] at isAvailable
    obtain ⟨stamped, unexpired⟩ := Option.isSome_iff_exists.mp isAvailable
    obtain ⟨first, last, split, -⟩ := stash_of_waiting (Option.filter_eq_some_iff.mp unexpired).1
    refine ⟨.stashed token stamped.value stamped.since, ?_, rfl⟩
    rw [split]
    simp
  · rintro token ⟨since, admitted, -⟩
    obtain ⟨admitting, among, isAdmission⟩ := List.mem_filterMap.mp (List.mem_of_getLast? admitted)
    exact ⟨admitting, among, Handled.token_of_admits? isAdmission⟩

namespace PendingBinds

/-- A connect event is a repetition, which only purges, or it takes the bind of its token and marks
the token. -/
theorem handle_connect (table : PendingBinds) (token : CorrelationToken) (now : Nat) :
    table.handle (.connect token now) =
      if (table.onceBound.contains token now).1 = true then
        (.connected token now .duplicate, { table with onceBound := table.onceBound.purge now })
      else
        (.connected token now (.admitted (table.binds.take token now).1),
          ⟨(table.binds.take token now).2, table.onceBound.insert token () now⟩) := by
  have marked := table.onceBound.insert_purge (Nat.le_refl now) token ()
  cases contained : table.onceBound.contains token now with
  | mk answer purged =>
    have isPurged : table.onceBound.purge now = purged := congrArg Prod.snd contained
    rw [isPurged] at marked
    cases answer with
    | true => simp [handle, beginConnect, contained, isPurged]
    | false => simp [handle, beginConnect, contained, marked]

/-- Both tables are as the history says, and were not used after `now`. -/
structure Sound (pendingTtl onceBoundTtl : Nat) (history : List Handled) (table : PendingBinds)
    (now : Nat) : Prop where
  bindsTtl : table.binds.ttl = pendingTtl
  bindsCapacity : table.binds.capacity = maxPending
  marksTtl : table.onceBound.ttl = onceBoundTtl
  marksCapacity : table.onceBound.capacity = maxPending
  bindsOrderly : table.binds.Orderly now
  marksOrderly : table.onceBound.Orderly now
  backed : table.binds.Backed (waiting history)

/-- Neither table dropped anything for lack of room. -/
structure Tracked (history : List Handled) (table : PendingBinds) (now : Nat) : Prop where
  binds : table.binds.Tracks (waiting history) now
  marks : table.onceBound.Tracks (marks history) now

section Steps

variable {pendingTtl onceBoundTtl now later : Nat} {history : List Handled} {table : PendingBinds}

theorem sound_new (pendingTtl onceBoundTtl now : Nat) :
    Sound pendingTtl onceBoundTtl [] (.new pendingTtl onceBoundTtl) now where
  bindsTtl := rfl
  bindsCapacity := rfl
  marksTtl := rfl
  marksCapacity := rfl
  bindsOrderly := (ExpiringMap.orderly_new _ _).mono (Nat.zero_le now)
  marksOrderly := (ExpiringMap.orderly_new _ _).mono (Nat.zero_le now)
  backed := ExpiringMap.backed_new _ _

private theorem tracked_new (pendingTtl onceBoundTtl now : Nat) :
    Tracked [] (.new pendingTtl onceBoundTtl) now where
  binds := ExpiringMap.tracks_new _ _ now
  marks := ExpiringMap.tracks_new _ _ now

theorem Sound.mono (sound : Sound pendingTtl onceBoundTtl history table now)
    (forward : now ≤ later) : Sound pendingTtl onceBoundTtl history table later :=
  { sound with
    bindsOrderly := sound.bindsOrderly.mono forward
    marksOrderly := sound.marksOrderly.mono forward }

theorem Tracked.mono (tracked : Tracked history table now)
    (sound : Sound pendingTtl onceBoundTtl history table now) (forward : now ≤ later) :
    Tracked history table later where
  binds := tracked.binds.mono sound.bindsOrderly forward
  marks := tracked.marks.mono sound.marksOrderly forward

theorem Sound.handle (sound : Sound pendingTtl onceBoundTtl history table now)
    (event : HandoverEvent) (atTime : event.time = now) :
    Sound pendingTtl onceBoundTtl (history ++ [(table.handle event).1]) (table.handle event).2
      now := by
  subst atTime
  cases event with
  | stash token bind now =>
    exact
      { bindsTtl := (ExpiringMap.ttl_roomFor _ now token).trans sound.bindsTtl
        bindsCapacity := (ExpiringMap.capacity_roomFor _ now token).trans sound.bindsCapacity
        marksTtl := sound.marksTtl
        marksCapacity := sound.marksCapacity
        bindsOrderly := sound.bindsOrderly.insert token bind
        marksOrderly := sound.marksOrderly
        backed := by
          rw [PendingBinds.handle, waiting_stashed]
          exact sound.backed.insert token bind now }
  | connect token now =>
    rw [handle_connect]
    split
    · exact
        { bindsTtl := sound.bindsTtl
          bindsCapacity := sound.bindsCapacity
          marksTtl := (ExpiringMap.ttl_purge _ now).trans sound.marksTtl
          marksCapacity := (ExpiringMap.capacity_purge _ now).trans sound.marksCapacity
          bindsOrderly := sound.bindsOrderly
          marksOrderly := sound.marksOrderly.purge
          backed := by
            rw [waiting_duplicate]
            exact sound.backed }
    · exact
        { bindsTtl := (ExpiringMap.ttl_purge _ now).trans sound.bindsTtl
          bindsCapacity := (ExpiringMap.capacity_purge _ now).trans sound.bindsCapacity
          marksTtl := (ExpiringMap.ttl_roomFor _ now token).trans sound.marksTtl
          marksCapacity := (ExpiringMap.capacity_roomFor _ now token).trans sound.marksCapacity
          bindsOrderly := sound.bindsOrderly.take token
          marksOrderly := sound.marksOrderly.insert token ()
          backed := sound.backed.take
            (fun other different => waiting_admitted_of_ne history token now _ different) now }

/-- What waits after a connect event was admitted is not its own bind. -/
theorem unexpired_admitted (tracked : Tracked history table now)
    (token : CorrelationToken) :
    (waiting
      (history ++ [.connected token now (.admitted (table.binds.take token now).1)])).unexpired
        table.binds.ttl now token = none := by
  rw [tracked.binds.take_eq]
  cases available : (waiting history).unexpired table.binds.ttl now token with
  | none =>
    rw [Kept.unexpired, waiting_concat]
    exact available
  | some stamped =>
    rw [Kept.unexpired, waiting_concat]
    simp [Handled.leaves?]

theorem Tracked.handle (tracked : Tracked history table now)
    (sound : Sound pendingTtl onceBoundTtl history table now) (event : HandoverEvent)
    (atTime : event.time = now)
    (roomForBinds : AtMost maxPending fun token =>
      (available pendingTtl (history ++ [(table.handle event).1]) token now).isSome)
    (roomForMarks : AtMost maxPending fun token =>
      Suppressed onceBoundTtl (history ++ [(table.handle event).1]) token now) :
    Tracked (history ++ [(table.handle event).1]) (table.handle event).2 now := by
  subst atTime
  cases event with
  | stash token bind now =>
    simp only [PendingBinds.handle, available, Option.isSome_map, waiting_stashed] at roomForBinds ⊢
    rw [← sound.bindsTtl, ← sound.bindsCapacity] at roomForBinds
    exact
      { binds := by
          rw [waiting_stashed]
          exact tracked.binds.insert sound.bindsOrderly token bind roomForBinds
        marks := by
          rw [marks_stashed]
          exact tracked.marks }
  | connect token now =>
    rw [handle_connect] at roomForMarks ⊢
    split at roomForMarks
    · next repeated =>
      rw [if_pos repeated]
      exact
        { binds := by
            rw [waiting_duplicate]
            exact tracked.binds
          marks := by
            rw [marks_duplicate]
            exact tracked.marks.purge }
    · next first =>
      rw [if_neg first]
      simp only [suppressed_iff, marks_admitted] at roomForMarks
      rw [← sound.marksTtl, ← sound.marksCapacity] at roomForMarks
      exact
        { binds := tracked.binds.take sound.bindsOrderly
            (fun other different => waiting_admitted_of_ne history token now _ different)
            (unexpired_admitted tracked token)
          marks := by
            rw [marks_admitted]
            exact tracked.marks.insert sound.marksOrderly token () roomForMarks }

/-- While there is room for everything, a connect event is told what the history says. -/
theorem Tracked.told (tracked : Tracked history table now)
    (sound : Sound pendingTtl onceBoundTtl history table now) {token : CorrelationToken}
    {admission : Admission}
    (told : (table.handle (.connect token now)).1 = .connected token now admission) :
    (admission = .duplicate ↔ Suppressed onceBoundTtl history token now) ∧
      (¬ Suppressed onceBoundTtl history token now →
        admission = .admitted (available pendingTtl history token now)) := by
  rw [suppressed_iff, available, ← sound.marksTtl, ← sound.bindsTtl, ← tracked.marks.contains_eq,
    ← tracked.binds.take_eq]
  rw [handle_connect] at told
  split at told
  · next repeated =>
    cases told
    simp [repeated]
  · next first =>
    cases told
    simp [first]

end Steps

/-! ### Histories -/

section Histories

variable {pendingTtl onceBoundTtl now : Nat}

@[simp]
private theorem event_handle (table : PendingBinds) (event : HandoverEvent) :
    (table.handle event).1.event = event := by
  cases event <;> rfl

private theorem time_handle (table : PendingBinds) (event : HandoverEvent) :
    (table.handle event).1.time = event.time := by
  cases event <;> rfl

theorem events_answersTo (table : PendingBinds) (events : List HandoverEvent) :
    (answersTo handle table events).map Handled.event = events := by
  induction events generalizing table with
  | nil => rfl
  | cons event rest inductionHypothesis => simp [answersTo, inductionHypothesis]

/-- Time does not go back from one event to the next. -/
def InOrder (events : List HandoverEvent) : Prop :=
  events.Pairwise fun earlier later => earlier.time ≤ later.time

theorem sound_history {events : List HandoverEvent} (ordered : InOrder events)
    (past : ∀ event ∈ events, event.time ≤ now) :
    Sound pendingTtl onceBoundTtl (history pendingTtl onceBoundTtl events)
      (afterHandover pendingTtl onceBoundTtl events) now := by
  induction events using List.reverseRecOn generalizing now with
  | nil => exact sound_new pendingTtl onceBoundTtl now
  | append_singleton events event inductionHypothesis =>
    obtain ⟨earlier, -, notBefore⟩ := List.pairwise_append.mp ordered
    have sound :=
      inductionHypothesis earlier fun other among => notBefore other among event (by simp)
    rw [history, answersTo_concat, afterHandover, stateAfter_concat]
    exact (sound.handle event rfl).mono (past event (by simp))

theorem tracked_history {events : List HandoverEvent} (ordered : InOrder events)
    (past : ∀ event ∈ events, event.time ≤ now)
    (uncrowded : Uncrowded pendingTtl onceBoundTtl (history pendingTtl onceBoundTtl events)) :
    Tracked (history pendingTtl onceBoundTtl events)
      (afterHandover pendingTtl onceBoundTtl events) now := by
  induction events using List.reverseRecOn generalizing now with
  | nil => exact tracked_new pendingTtl onceBoundTtl now
  | append_singleton events event inductionHypothesis =>
    obtain ⟨earlier, -, notBefore⟩ := List.pairwise_append.mp ordered
    have pastEarlier : ∀ other ∈ events, other.time ≤ event.time :=
      fun other among => notBefore other among event (by simp)
    have sound : Sound pendingTtl onceBoundTtl _ _ event.time := sound_history earlier pastEarlier
    rw [history, answersTo_concat] at uncrowded ⊢
    rw [afterHandover, stateAfter_concat]
    have room := uncrowded _ _ (List.prefix_refl _)
    rw [time_handle] at room
    have tracked := inductionHypothesis earlier pastEarlier uncrowded.concat
    exact (tracked.handle sound event rfl room.1 room.2).mono (sound.handle event rfl)
      (past event (by simp))

/-- What a connect event is given was waiting, and is still in time. -/
theorem Sound.given_waiting {history : List Handled} {table : PendingBinds}
    (sound : Sound pendingTtl onceBoundTtl history table now) {token : CorrelationToken}
    {bind : PendingBind} (given : (table.binds.take token now).1 = some bind) :
    ∃ since, waiting history token = some ⟨bind, since⟩ ∧ now < since + pendingTtl := by
  obtain ⟨held, found, rfl⟩ := Option.map_eq_some_iff.mp given
  rw [sound.bindsOrderly.getElem?_purge] at found
  have accounted := sound.backed token held found.1
  obtain ⟨stamped, waits, rfl⟩ := Option.map_eq_some_iff.mp accounted
  refine ⟨stamped.since, waits, ?_⟩
  rw [← sound.bindsTtl]
  exact found.2

/-- The state in which an event of a history was handled. -/
theorem history_split {events : List HandoverEvent} (ordered : InOrder events)
    {before after : List Handled} {handled : Handled}
    (split : history pendingTtl onceBoundTtl events = before ++ handled :: after) :
    ∃ first second, events = first ++ handled.event :: second ∧ InOrder first ∧
      (∀ event ∈ first, event.time ≤ handled.time) ∧ (∀ event ∈ second, handled.time ≤ event.time) ∧
      before = history pendingTtl onceBoundTtl first ∧
      ((afterHandover pendingTtl onceBoundTtl first).handle handled.event).1 = handled ∧
      after = answersTo handle
        ((afterHandover pendingTtl onceBoundTtl first).handle handled.event).2 second := by
  obtain ⟨first, event, second, rfl, rfl, rfl, rfl⟩ := answersTo_split split
  rw [event_handle, time_handle]
  obtain ⟨earlier, laterOrder, notBefore⟩ := List.pairwise_append.mp ordered
  refine ⟨first, second, rfl, earlier, ?_, (List.pairwise_cons.mp laterOrder).1, rfl, rfl, rfl⟩
  exact fun other among => notBefore other among event (by simp)

/-- A connect event that is given a bind comes after the stash of that bind, and nothing is stashed
or given away under its token between them. -/
theorem stash_of_given {events : List HandoverEvent} (ordered : InOrder events)
    {before after : List Handled} {token : CorrelationToken} {bind : PendingBind}
    (given : history pendingTtl onceBoundTtl events =
      before ++ .connected token now (.admitted (some bind)) :: after) :
    ∃ earlier since between, before = earlier ++ .stashed token bind since :: between ∧
      now < since + pendingTtl ∧ ∀ handled ∈ between, handled.leaves? token = none := by
  obtain ⟨first, second, -, orderedFirst, past, -, rfl, handled, -⟩ := history_split ordered given
  have sound : Sound pendingTtl onceBoundTtl _ _ now := sound_history orderedFirst past
  rw [Handled.event, handle_connect] at handled
  split at handled
  · cases handled
  · simp only [Handled.connected.injEq, Admission.admitted.injEq, true_and] at handled
    obtain ⟨since, waits, inTime⟩ := sound.given_waiting handled
    obtain ⟨earlier, between, same, untouched⟩ := stash_of_waiting waits
    exact ⟨earlier, since, between, same, inTime, untouched⟩

/-- The same by the numbers of the events. -/
theorem numbered_stash_of_given {events : List HandoverEvent} (ordered : InOrder events)
    {connect : Nat} {token : CorrelationToken} {bind : PendingBind}
    (given : (history pendingTtl onceBoundTtl events)[connect]? =
      some (.connected token now (.admitted (some bind)))) :
    ∃ stash since, (history pendingTtl onceBoundTtl events)[stash]? =
        some (.stashed token bind since) ∧ stash < connect ∧ now < since + pendingTtl ∧
      ∀ between handled, stash < between → between < connect →
        (history pendingTtl onceBoundTtl events)[between]? = some handled →
        handled.leaves? token = none := by
  obtain ⟨before, after, split, rfl⟩ := exists_split given
  obtain ⟨earlier, since, later, rfl, inTime, untouched⟩ := stash_of_given ordered split
  rw [split]
  refine ⟨earlier.length, since, by simp, by simp, inTime, ?_⟩
  intro between handled afterStash beforeConnect isAt
  exact untouched handled (mem_between afterStash beforeConnect isAt)

private theorem exists_handsOver {events : List HandoverEvent} (ordered : InOrder events)
    {connect : Nat} {token : CorrelationToken} {bind : PendingBind}
    (given : (history pendingTtl onceBoundTtl events)[connect]? =
      some (.connected token now (.admitted (some bind)))) :
    ∃ stash, HandsOver pendingTtl (history pendingTtl onceBoundTtl events) stash connect := by
  obtain ⟨stash, since, isStash, before, inTime, untouched⟩ := numbered_stash_of_given ordered given
  refine ⟨stash, token, bind, since, now, isStash, given, before, inTime, ?_⟩
  intro between other time afterStash beforeConnect isStash
  have left := untouched between _ afterStash beforeConnect isStash
  simp [Handled.leaves?] at left

/-- Whoever is given a bind later is given another one. -/
theorem not_handsOver_later {events : List HandoverEvent} (ordered : InOrder events)
    {stash first second : Nat}
    (toFirst : HandsOver pendingTtl (history pendingTtl onceBoundTtl events) stash first)
    (toSecond : HandsOver pendingTtl (history pendingTtl onceBoundTtl events) stash second) :
    ¬ first < second := by
  intro later
  obtain ⟨token, bind, since, firstTime, isStash, givenFirst, beforeFirst, -, -⟩ := toFirst
  obtain ⟨_, _, _, secondTime, sameStash, givenSecond, beforeSecond, -, noneSince⟩ := toSecond
  cases isStash.symm.trans sameStash
  obtain ⟨own, ownSince, isOwn, beforeOwn, -, untouched⟩ :=
    numbered_stash_of_given ordered givenSecond
  rcases Nat.lt_trichotomy stash own with before | rfl | after
  · exact noneSince own _ _ before beforeOwn isOwn
  · have left := untouched first _ beforeFirst later givenFirst
    simp [Handled.leaves?] at left
  · have left := untouched stash _ after beforeSecond isStash
    simp [Handled.leaves?] at left

end Histories

/-- Without its purging, a repetition makes no difference to what comes later. -/
theorem answersTo_purged {now : Nat} (table : PendingBinds) {events : List HandoverEvent}
    (later : ∀ event ∈ events, now ≤ event.time) :
    answersTo handle { table with onceBound := table.onceBound.purge now } events =
      answersTo handle table events := by
  induction events generalizing table with
  | nil => rfl
  | cons event rest inductionHypothesis =>
    obtain ⟨forward, laterRest⟩ := List.forall_mem_cons.mp later
    cases event with
    | stash token bind time =>
      rw [answersTo, answersTo]
      congr 1
      exact inductionHypothesis (table.stash token bind time) laterRest
    | connect token time =>
      have forward : now ≤ time := forward
      have same :
          { table with onceBound := table.onceBound.purge now }.handle (.connect token time) =
            table.handle (.connect token time) := by
        rw [handle_connect, handle_connect]
        dsimp only
        rw [ExpiringMap.contains_purge _ forward, ExpiringMap.insert_purge _ forward,
          ExpiringMap.purge_purge _ forward]
      rw [answersTo, answersTo, same]

/-- All other events are answered as if a repetition had not happened. -/
theorem history_without_duplicate {pendingTtl onceBoundTtl now : Nat} {events : List HandoverEvent}
    (ordered : InOrder events) {before after : List Handled} {token : CorrelationToken}
    (told : history pendingTtl onceBoundTtl events =
      before ++ .connected token now .duplicate :: after) :
    history pendingTtl onceBoundTtl ((before ++ after).map Handled.event) = before ++ after := by
  obtain ⟨first, second, -, -, -, later, rfl, handled, rfl⟩ := history_split ordered told
  simp only [history, List.map_append, events_answersTo, answersTo_append,
    List.append_cancel_left_eq]
  rw [Handled.event, handle_connect] at handled ⊢
  split at handled
  · next repeated =>
    rw [if_pos repeated]
    exact (answersTo_purged _ later).symm
  · cases handled

/-- The handover of handshakes, in any history in which time does not go back: a connect event is
given the last bind stashed under its token and in time, and no other one is given the same. As long
as neither table is crowded, a connect event repeats another one if and only if its token was
admitted within the time for which it is remembered, and is given what is available otherwise. A
repetition changes nothing. -/
theorem handover_exact (pendingTtl onceBoundTtl : Nat) (events : List HandoverEvent)
    (ordered : InOrder events) :
    let handled := history pendingTtl onceBoundTtl events
    (∀ connect token now bind,
      handled[connect]? = some (.connected token now (.admitted (some bind))) →
      ∃ stash, HandsOver pendingTtl handled stash connect) ∧
    (∀ stash first second, HandsOver pendingTtl handled stash first →
      HandsOver pendingTtl handled stash second → first = second) ∧
    (∀ before token now admission after,
      handled = before ++ .connected token now admission :: after →
      Uncrowded pendingTtl onceBoundTtl before →
      (admission = .duplicate ↔ Suppressed onceBoundTtl before token now) ∧
        (¬ Suppressed onceBoundTtl before token now →
          admission = .admitted (available pendingTtl before token now))) ∧
    (∀ before token now after, handled = before ++ .connected token now .duplicate :: after →
      history pendingTtl onceBoundTtl ((before ++ after).map Handled.event) = before ++ after) := by
  intro handled
  refine ⟨?_, ?_, ?_, ?_⟩
  · intro connect token now bind given
    exact exists_handsOver ordered given
  · intro stash first second toFirst toSecond
    have notLater := not_handsOver_later ordered toFirst toSecond
    have notEarlier := not_handsOver_later ordered toSecond toFirst
    omega
  · intro before token now admission after told uncrowded
    obtain ⟨first, second, -, orderedFirst, past, -, rfl, isTold, -⟩ := history_split ordered told
    have tracked := tracked_history orderedFirst past uncrowded
    exact tracked.told (sound_history orderedFirst past) isTold
  · intro before token now after told
    exact history_without_duplicate ordered told

/-! ### Retries within and after the time for which a token is remembered -/

/-- A client connects again too early, is authenticated once more under its token, and connects when
its first attempt is forgotten. Another one comes too late. -/
def retries : List HandoverEvent :=
  [.stash ⟨"a"⟩ ⟨⟨"u1"⟩, "old"⟩ 0, .connect ⟨"a"⟩ 1, .connect ⟨"a"⟩ 2,
    .stash ⟨"a"⟩ ⟨⟨"u1"⟩, "new"⟩ 3, .connect ⟨"a"⟩ 4, .connect ⟨"a"⟩ 6,
    .stash ⟨"c"⟩ ⟨⟨"u2"⟩, ""⟩ 6, .connect ⟨"c"⟩ 36]

/-- What comes of it, with 30 for binds and 5 for tokens that were admitted. -/
def retriesHandled : List Handled :=
  [.stashed ⟨"a"⟩ ⟨⟨"u1"⟩, "old"⟩ 0, .connected ⟨"a"⟩ 1 (.admitted (some ⟨⟨"u1"⟩, "old"⟩)),
    .connected ⟨"a"⟩ 2 .duplicate, .stashed ⟨"a"⟩ ⟨⟨"u1"⟩, "new"⟩ 3, .connected ⟨"a"⟩ 4 .duplicate,
    .connected ⟨"a"⟩ 6 (.admitted (some ⟨⟨"u1"⟩, "new"⟩)), .stashed ⟨"c"⟩ ⟨⟨"u2"⟩, ""⟩ 6,
    .connected ⟨"c"⟩ 36 (.admitted none)]

theorem retries_told :
    InOrder retries ∧ history 30 5 retries = retriesHandled ∧
      (∃ stash, HandsOver 30 retriesHandled stash 5) ∧
      Uncrowded 30 5 (retriesHandled.take 5) ∧ ¬ Suppressed 5 (retriesHandled.take 5) ⟨"a"⟩ 6 ∧
      history 30 5 ((retriesHandled.take 4 ++ retriesHandled.drop 5).map Handled.event) =
        retriesHandled.take 4 ++ retriesHandled.drop 5 := by
  have ordered : InOrder retries := by
    unfold InOrder
    decide
  have handled : history 30 5 retries = retriesHandled := by decide +kernel
  obtain ⟨given, -, told, unchanged⟩ := handover_exact 30 5 retries ordered
  rw [handled] at given told unchanged
  have uncrowded : Uncrowded 30 5 (retriesHandled.take 5) := uncrowded_of_length_le (by decide)
  have notSuppressed : ¬ Suppressed 5 (retriesHandled.take 5) ⟨"a"⟩ 6 := by
    rw [← (told (retriesHandled.take 5) ⟨"a"⟩ 6 _ (retriesHandled.drop 6) rfl uncrowded).1]
    exact nofun
  exact ⟨ordered, handled, given 5 _ _ _ rfl, uncrowded, notSuppressed,
    unchanged (retriesHandled.take 4) ⟨"a"⟩ 4 (retriesHandled.drop 5) rfl⟩

end PendingBinds

end SocketGateway
