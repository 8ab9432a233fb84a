import SocketGateway.Proofs.Hub.Queues

/-!
Contract: what a socket is sent in a run of events, and what becomes of it.

Owns:
- the letters that every event posts to a socket: events that it emits while it is open, events that
  others broadcast in rooms where it stays, answers, pings, and the close of its first disconnect;
- that its queue holds exactly these letters in their order, and that only answers and pings follow
  once it was disconnected or released;
- what its writer writes of them, and when.

Does not own: what frames look like, or sockets whose queue nobody takes from.
-/

namespace SocketGateway

/-- What a socket is sent. -/
inductive Letter where
  | event (name : String) (data : Json)
  | answer (number : UInt64) (response : String)
  | ping
  | close

namespace Letter

/-- The item that stands for a letter in a queue. -/
def item : Letter → Outbound
  | .event name data => .text (ServerFrame.event name data).text
  | .answer number response => .text (ServerFrame.answer number response).text
  | .ping => .ping
  | .close => .close

/-- Whether a letter can also follow a close. -/
def isReply : Letter → Bool
  | .answer _ _ | .ping => true
  | .event _ _ | .close => false

end Letter

/-- Whether the event is that a socket is disconnected or released. -/
def HubEvent.ends (id : ConnectionId) : HubEvent → Bool
  | .call (.disconnect other) => other = id
  | .release other => other = id
  | _ => false

/-- What an event posts to an open socket which it closes. -/
def HubEvent.farewell : HubEvent → List Letter
  | .call (.disconnect _) => [.close]
  | _ => []

namespace Lobby

/-- The visit of a socket that was opened. -/
def visit? (lobby : Lobby) (id : ConnectionId) : Option Visit := lobby.visits.find? (·.id = id)

/-- Whether a socket was opened and not closed since. -/
def hasOpen (lobby : Lobby) (id : ConnectionId) : Bool :=
  lobby.visits.any fun visit => visit.id = id && !visit.ended

end Lobby

/-- What a call posts to the socket of a visit. -/
def Visit.letters (lobby : Lobby) (visit : Visit) : SocketCall → List Letter
  | .emit id name data => if id = visit.id ∧ visit.ended = false then [.event name data] else []
  | .broadcast sender room name data =>
    if lobby.hasOpen sender = true ∧ sender ≠ visit.id ∧ visit.staysIn room = true then
      [.event name data]
    else []
  | .ack id number response => if id = visit.id then [.answer number response] else []
  | .ping id => if id = visit.id then [.ping] else []
  | .disconnect id => if id = visit.id ∧ visit.ended = false then [.close] else []
  | .join _ _ | .leave _ _ | .abandonQueue _ => []

namespace Lobby

/-- What an event posts to a socket, if that was opened. -/
def post (lobby : Lobby) (id : ConnectionId) : HubEvent → List Letter
  | .call call =>
    match lobby.visit? id with
    | none => []
    | some visit => visit.letters lobby call
  | _ => []

/-- All that the events post to a socket, one after the other. -/
def posted (capacity : Nat) (id : ConnectionId) : Lobby → List HubEvent → List Letter
  | _, [] => []
  | lobby, event :: rest =>
    lobby.post id event ++ posted capacity id (lobby.perform capacity event) rest

variable {capacity : Nat} {lobby : Lobby} {id other : ConnectionId} {visit : Visit}
  {event : HubEvent}

private theorem posted_append (first second : List HubEvent) :
    posted capacity id lobby (first ++ second) =
      posted capacity id lobby first ++
        posted capacity id (first.foldl (perform capacity) lobby) second := by
  induction first generalizing lobby with
  | nil => rfl
  | cons event rest inductionHypothesis =>
    rw [List.cons_append, posted, inductionHypothesis, posted, List.append_assoc, List.foldl_cons]

private theorem posted_concat (events : List HubEvent) (event : HubEvent) :
    posted capacity id {} (events ++ [event]) =
      posted capacity id {} events ++ (after capacity events).post id event := by
  rw [posted_append, posted, posted, List.append_nil]
  rfl

/-! ### Visits -/

private theorem mem_of_visit? (found : lobby.visit? id = some visit) :
    visit ∈ lobby.visits ∧ visit.id = id :=
  ⟨List.mem_of_find?_eq_some found, by simpa using List.find?_some found⟩

private theorem visit?_eq_none : lobby.visit? id = none ↔ id ∉ lobby.visits.map Visit.id := by
  simp [visit?]

/-- The visit goes on, whatever happens. -/
theorem visit?_perform (capacity : Nat) (found : lobby.visit? id = some visit) (event : HubEvent) :
    (lobby.perform capacity event).visit? id = some (visit.note lobby.hub event) := by
  have proceeds : ∀ next : Hub, (lobby.proceed event next).visit? id =
      some (visit.note lobby.hub event) := by
    intro next
    have sameId : (fun visit : Visit => decide (visit.id = id)) ∘ (·.note lobby.hub event) =
        fun visit : Visit => decide (visit.id = id) := by
      funext visit
      simp
    rw [visit?, proceed, List.find?_map, sameId, ← visit?, found, Option.map_some]
  cases event with
  | reserve =>
    rw [perform, Lobby.reserve]
    split <;> exact found
  | dropReservation number =>
    rw [perform, Lobby.dropReservation]
    split <;> exact found
  | openSocket number opened =>
    rw [perform, Lobby.openSocket]
    split
    · rw [visit?, List.find?_append, ← visit?, found]
      rfl
    · exact found
  | call call => exact proceeds _
  | release released => exact proceeds _

/-- A visit is over after an event that ends it, and if it was over before. -/
theorem ended_note (hub : Hub) :
    (visit.note hub event).ended = (visit.ended || event.ends visit.id) := by
  cases event with
  | call call =>
    cases call <;> simp only [Visit.note, HubEvent.ends, Bool.or_false]
    all_goals split <;> simp_all [Visit.move]
  | release released =>
    simp only [Visit.note, HubEvent.ends]
    split <;> simp_all
  | _ => simp [Visit.note, HubEvent.ends]

/-! ### Strangers -/

/-- Nobody is opened by an event that does not say so. -/
theorem visit?_perform_eq_none (capacity : Nat) (stranger : lobby.visit? id = none)
    (notOpened : event.opens? ≠ some id) :
    (lobby.perform capacity event).visit? id = none := by
  rw [visit?_eq_none] at stranger ⊢
  exact fun isVisit => (mem_visits_perform isVisit).elim stranger notOpened

/-- A socket that was never opened counts as closed. -/
theorem closed_of_stranger (events : List HubEvent)
    (stranger : (after capacity events).visit? id = none) :
    (after capacity events).hub.isClosed id = true := by
  induction events using List.reverseRecOn with
  | nil => rfl
  | append_singleton events event inductionHypothesis =>
    rw [after_concat] at stranger ⊢
    have strangerBefore : (after capacity events).visit? id = none := by
      cases found : (after capacity events).visit? id with
      | none => rfl
      | some visit => cases (visit?_perform capacity found event).symm.trans stranger
    have closed := inductionHypothesis strangerBefore
    cases event with
    | call call => exact Hub.closed_call closed call
    | release released =>
      show ((after capacity events).hub.release released).isClosed id = true
      rw [Hub.isClosed_release, closed, Bool.true_or]
    | openSocket number opened =>
      rw [perform, Lobby.openSocket] at stranger ⊢
      split at stranger
      · next held =>
        rw [if_pos held]
        have different : opened ≠ id := by
          rintro rfl
          exact visit?_eq_none.mp stranger (by simp)
        exact (Hub.spares_openSocket _ different).closed.trans closed
      · next spent =>
        rw [if_neg spent]
        exact closed
    | _ =>
      refine (Hub.Spares.closed (spares_perform capacity _ ?_)).trans closed
      simp [HubEvent.socket?]

private theorem hasOpen_eq_true : lobby.hasOpen id = true ↔
    ∃ visit ∈ lobby.visits, visit.ended = false ∧ visit.id = id := by
  simp [hasOpen, and_comm]

/-- The sockets that are not closed are those that were opened and whose visit is not over. -/
theorem Sound.isClosed_eq (sound : Sound capacity lobby)
    (stranger : lobby.visit? id = none → lobby.hub.isClosed id = true) :
    lobby.hub.isClosed id = !lobby.hasOpen id := by
  have isPeer : lobby.hasOpen id = true ↔ id ∈ lobby.hub.peers :=
    hasOpen_eq_true.trans sound.mem_peers.symm
  cases found : lobby.visit? id with
  | none =>
    have notPeer : id ∉ lobby.hub.peers :=
      fun isPeer => visit?_eq_none.mp found (sound.known id isPeer)
    simp [stranger found, Bool.eq_false_iff.mpr (isPeer.not.mpr notPeer)]
  | some visit =>
    obtain ⟨among, rfl⟩ := mem_of_visit? found
    have shown := sound.shown visit among
    rw [shown.closed, Bool.eq_iff_iff, Bool.not_eq_true', ← Bool.not_eq_true, isPeer,
      shown.open_iff, Bool.not_eq_false]

/-! ### What is posted is received -/

/-- A call sends the socket of a visit what it posts to it. -/
theorem Sound.receives_letters (sound : Sound capacity lobby) (among : visit ∈ lobby.visits)
    (isClosed : ∀ other, lobby.hub.isClosed other = !lobby.hasOpen other) {call : SocketCall}
    (attended : call ≠ .abandonQueue visit.id) :
    Hub.Receives visit.id ((visit.letters lobby call).map Letter.item) lobby.hub
      (lobby.hub.call call) := by
  have shown := sound.shown visit among
  have itself : ∀ id, (id = visit.id ∧ visit.ended = false) ↔
      (id = visit.id ∧ lobby.hub.isClosed id = false) := by
    intro id
    refine and_congr_right fun same => ?_
    rw [same, shown.closed]
  have single : ∀ (applies : Prop) [Decidable applies] (letter : Letter),
      (if applies then [letter] else []).map Letter.item =
        if applies then [letter.item] else [] := by
    intro applies _ letter
    split <;> rfl
  cases call with
  | emit id name data =>
    simp only [Visit.letters, single, itself]
    exact Hub.receives_emit _ id visit.id name data
  | broadcast sender room name data =>
    have receives : (lobby.hasOpen sender = true ∧ sender ≠ visit.id ∧ visit.staysIn room = true) ↔
        lobby.hub.isClosed sender = false ∧ sender ≠ visit.id ∧
          visit.id ∈ lobby.hub.membersOf room ∧ visit.id ∈ lobby.hub.peers := by
      rw [isClosed, Hub.mem_membersOf, sound.consistent.paired, shown.hasRoom, Bool.not_eq_false']
      refine and_congr_right fun _ => and_congr_right fun _ => (and_iff_left_of_imp ?_).symm
      exact fun stays => ((shown.hasRoom room).mpr stays).isPeer
    simp only [Visit.letters, single, receives]
    exact Hub.receives_broadcast _ sender visit.id room name data
  | ack id number response =>
    simp only [Visit.letters, single]
    exact Hub.receives_enqueue _ id visit.id _
  | ping id =>
    simp only [Visit.letters, single]
    exact Hub.receives_enqueue _ id visit.id _
  | disconnect id =>
    simp only [Visit.letters, single, itself]
    exact Hub.receives_disconnect _ id visit.id
  | join id room => exact Hub.receives_join _ id visit.id room
  | leave id room => exact Hub.receives_leave _ id visit.id room
  | abandonQueue id =>
    exact Hub.receives_abandonQueue _ fun same => attended (congrArg SocketCall.abandonQueue same)

/-- Where the socket of a visit stands after the letters: they are in its queue, from which somebody
takes once the socket was opened. A close is among them only if the visit is over. -/
structure Delivered (id : ConnectionId) (letters : List Letter) (lobby : Lobby) : Prop where
  drained : (lobby.hub.socket id).drained = (lobby.visit? id).isSome
  queued : lobby.hub.queueOf id = letters.map Letter.item
  unknown : lobby.visit? id = none → letters = []
  closes : (letters.map Letter.item).count .close ≤
    if (lobby.visit? id).any Visit.ended then 1 else 0

private theorem delivered_empty (id : ConnectionId) : Delivered id [] {} where
  drained := rfl
  queued := rfl
  unknown _ := rfl
  closes := Nat.zero_le _

/-- A close is posted by the event that ends a visit, once. -/
theorem count_close_post (found : lobby.visit? id = some visit) (event : HubEvent) :
    ((lobby.post id event).map Letter.item).count .close ≤
      if visit.ended = false ∧ event.ends id = true then 1 else 0 := by
  obtain ⟨-, rfl⟩ := mem_of_visit? found
  cases event with
  | call call =>
    simp only [post, found]
    cases call with
    | disconnect other =>
      simp only [Visit.letters, HubEvent.ends, decide_eq_true_eq, and_comm]
      split <;> exact Nat.le_refl _
    | join | leave | abandonQueue => exact Nat.zero_le _
    | _ =>
      simp only [Visit.letters]
      split <;> exact Nat.zero_le _
  | _ => exact Nat.zero_le _

/-- What an event that does not open the socket posts to it is received, if that is so of calls. -/
theorem receives_post (notOpened : event.opens? ≠ some id)
    (called : ∀ call, event = .call call →
      Hub.Receives id ((lobby.post id event).map Letter.item) lobby.hub (lobby.hub.call call)) :
    Hub.Receives id ((lobby.post id event).map Letter.item) lobby.hub
      (lobby.perform capacity event).hub := by
  cases event with
  | call call => exact called call rfl
  | release released => exact Hub.receives_release _ released id
  | openSocket number opened =>
    have different : opened ≠ id := fun same => notOpened (congrArg some same)
    rw [perform, Lobby.openSocket]
    split
    · exact Hub.receives_openSocket _ different
    · exact Hub.Receives.refl id lobby.hub
  | dropReservation number =>
    rw [perform, Lobby.dropReservation]
    split
    · exact Hub.Receives.of_socket rfl
    · exact Hub.Receives.refl id lobby.hub
  | reserve =>
    rw [perform, Lobby.reserve]
    split
    · exact Hub.Receives.refl id lobby.hub
    · next taken =>
      obtain ⟨-, rfl⟩ := Hub.reserve?_eq_some taken
      exact Hub.Receives.of_socket rfl

variable {letters : List Letter}

theorem Delivered.receive (delivered : Delivered id letters lobby)
    (notOpened : event.opens? ≠ some id)
    (received : Hub.Receives id ((lobby.post id event).map Letter.item) lobby.hub
      (lobby.perform capacity event).hub) :
    Delivered id (letters ++ lobby.post id event) (lobby.perform capacity event) := by
  have drained := received.drained.trans delivered.drained
  have queued := received.queued
  rw [delivered.drained, delivered.queued] at queued
  have closes := delivered.closes
  cases found : lobby.visit? id with
  | none =>
    have noPost : lobby.post id event = [] := by
      cases event <;> simp [post, found]
    have foundNext := visit?_perform_eq_none capacity found notOpened
    rw [noPost, List.append_nil]
    rw [found] at drained queued closes
    exact {
      drained := by rw [drained, foundNext]
      queued := by simpa using queued
      unknown := fun _ => delivered.unknown found
      closes := by rwa [foundNext] }
  | some visit =>
    have foundNext := visit?_perform capacity found event
    have posted := count_close_post found event
    obtain ⟨-, rfl⟩ := mem_of_visit? found
    rw [found] at drained queued closes
    refine ⟨?_, ?_, ?_, ?_⟩
    · rw [drained, foundNext]
      rfl
    · simpa using queued
    · intro stranger
      cases foundNext.symm.trans stranger
    · rw [foundNext, Option.any_some, ended_note, List.map_append, List.count_append]
      cases ended : visit.ended <;> cases ends : event.ends visit.id <;> simp_all

/-- When a socket is opened, nothing was sent to it yet. -/
theorem Delivered.openSocket (delivered : Delivered id letters lobby)
    (stranger : lobby.visit? id = none) (number : Nat) :
    Delivered id letters (lobby.openSocket number id) := by
  unfold Lobby.openSocket
  split
  · next held =>
    rw [delivered.unknown stranger]
    have found : Lobby.visit? ⟨lobby.hub.openSocket id, lobby.reservations.set number .opened,
        lobby.visits ++ [{ id := id }]⟩ id = some { id := id } := by
      rw [visit?, List.find?_append, ← visit?, stranger]
      simp
    refine ⟨?_, ?_, fun _ => rfl, Nat.zero_le _⟩
    · rw [found]
      simp [Hub.openSocket, Hub.socket]
    · simp [Hub.openSocket, Hub.queueOf, Hub.socket]
  · exact delivered

/-- Whatever happens, what was posted to a socket is what is in its queue. -/
theorem delivered_after (capacity : Nat) {events : List HubEvent} {id : ConnectionId}
    (distinct : (events.filterMap HubEvent.opens?).Nodup)
    (attended : HubEvent.call (.abandonQueue id) ∉ events) :
    Delivered id (posted capacity id {} events) (after capacity events) := by
  induction events using List.reverseRecOn with
  | nil => exact delivered_empty id
  | append_singleton events event inductionHypothesis =>
    have sound := sound_after capacity (distinct.sublist
      ((List.sublist_append_left events [event]).filterMap HubEvent.opens?))
    rw [List.filterMap_append, List.nodup_append] at distinct
    obtain ⟨distinctBefore, -, apart⟩ := distinct
    rw [List.mem_append, not_or, List.mem_singleton] at attended
    have delivered := inductionHypothesis distinctBefore attended.1
    rw [after_concat, posted_concat]
    by_cases opened : event.opens? = some id
    · cases event with
      | openSocket number opening =>
        cases opened
        have stranger : (after capacity events).visit? id = none := by
          refine visit?_eq_none.mpr fun isVisit => ?_
          exact apart id (opened_of_visit isVisit) id (by simp [HubEvent.opens?]) rfl
        exact (List.append_nil _).symm ▸ delivered.openSocket stranger number
      | _ => cases opened
    · refine delivered.receive opened (receives_post opened ?_)
      rintro call rfl
      cases found : (after capacity events).visit? id with
      | none =>
        have idle : ((after capacity events).hub.socket id).drained = false := by
          rw [delivered.drained, found]
          rfl
        simpa [post, found] using Hub.receives_call_idle idle call
      | some visit =>
        obtain ⟨among, rfl⟩ := mem_of_visit? found
        simp only [post, found]
        refine sound.receives_letters among ?_ ?_
        · intro other
          exact sound.isClosed_eq fun stranger => closed_of_stranger events stranger
        · rintro rfl
          exact attended.2 rfl

/-! ### What comes after the end -/

/-- Once a visit is over, only answers and pings are posted to its socket. -/
theorem posted_replies (found : lobby.visit? id = some visit) (ended : visit.ended = true)
    (events : List HubEvent) :
    ∀ letter ∈ posted capacity id lobby events, letter.isReply = true := by
  induction events generalizing lobby visit with
  | nil => simp [posted]
  | cons event rest inductionHypothesis =>
    rw [posted, List.forall_mem_append]
    refine ⟨?_, inductionHypothesis (visit?_perform capacity found event) ?_⟩
    · cases event with
      | call call =>
        simp only [post, found]
        cases call <;> simp only [Visit.letters, Visit.staysIn, ended]
        all_goals simp [Letter.isReply]
      | _ => exact fun letter among => by cases among
    · rw [ended_note, ended, Bool.true_or]

/-- The event that ends a visit posts a close if it is a disconnect, and nothing otherwise. -/
theorem post_of_ends (found : lobby.visit? id = some visit) (lasting : visit.ended = false)
    (ends : event.ends id = true) : lobby.post id event = event.farewell := by
  obtain ⟨-, rfl⟩ := mem_of_visit? found
  cases event with
  | call call =>
    cases call with
    | disconnect other =>
      have itself : other = visit.id := by simpa [HubEvent.ends] using ends
      simp [post, found, Visit.letters, itself, lasting, HubEvent.farewell]
    | _ => cases ends
  | release released => rfl
  | _ => cases ends

/-- What is posted to a socket whose visit ends: what was posted before, a farewell, and replies. -/
theorem posted_farewell {before : List HubEvent}
    (found : (after capacity before).visit? id = some visit) (lasting : visit.ended = false)
    (ends : event.ends id = true) (later : List HubEvent) :
    ∃ replies, posted capacity id {} (before ++ event :: later) =
        posted capacity id {} before ++ event.farewell ++ replies ∧
      ∀ letter ∈ replies, letter.isReply = true := by
  have ended : (visit.note (after capacity before).hub event).ended = true := by
    rw [ended_note, (mem_of_visit? found).2, ends, Bool.or_true]
  refine ⟨posted capacity id ((after capacity before).perform capacity event) later, ?_,
    posted_replies (visit?_perform capacity found event) ended later⟩
  rw [posted_append, posted, ← post_of_ends found lasting ends, List.append_assoc]
  rfl

/-- Nothing is taken back from a queue, and nothing is put before what is in it. -/
theorem queueOf_prefix (capacity : Nat) {before later : List HubEvent}
    (distinct : ((before ++ later).filterMap HubEvent.opens?).Nodup)
    (attended : HubEvent.call (.abandonQueue id) ∉ before ++ later) :
    (after capacity before).hub.queueOf id <+:
      (after capacity (before ++ later)).hub.queueOf id := by
  have distinctBefore : (before.filterMap HubEvent.opens?).Nodup :=
    distinct.sublist ((List.sublist_append_left before later).filterMap _)
  have attendedBefore : HubEvent.call (.abandonQueue id) ∉ before :=
    fun among => attended (List.mem_append_left later among)
  rw [(delivered_after capacity distinctBefore attendedBefore).queued,
    (delivered_after capacity distinct attended).queued, posted_append]
  exact (List.prefix_append _ _).map _

/-- Whatever happens to a hub, if no id is given to two sockets, the queue of a socket from which
somebody takes holds what was posted to it, in order, and each letter once. At most one close is
posted, by the first event that ends the visit if that is a disconnect; what is posted after that
event is answers and pings. A socket whose visit is over neither emits nor broadcasts, and the hub
stays as it is. Its writer writes the queue up to the first close: whenever it comes back, it goes
on behind what it wrote before, and it has written everything once it wrote the close. -/
theorem delivery_until_close (capacity : Nat) (events : List HubEvent) (id : ConnectionId)
    (distinct : (events.filterMap HubEvent.opens?).Nodup)
    (attended : HubEvent.call (.abandonQueue id) ∉ events) :
    let lobby := after capacity events
    let letters := posted capacity id {} events
    let queue := lobby.hub.queueOf id
    queue = letters.map Letter.item ∧
    (queue.count .close ≤ if (lobby.visit? id).any Visit.ended then 1 else 0) ∧
    (∀ before event later visit, events = before ++ event :: later → event.ends id = true →
      (after capacity before).visit? id = some visit → visit.ended = false →
      ∃ replies, letters = posted capacity id {} before ++ event.farewell ++ replies ∧
        ∀ letter ∈ replies, letter.isReply = true) ∧
    (∀ visit, lobby.visit? id = some visit → visit.ended = false →
      ∀ name data, (lobby.hub.emit id name data).1 = .ok ()) ∧
    (∀ other visit, lobby.visit? other = some visit → visit.ended = true → ∀ name data,
      lobby.hub.emit other name data = (.error (.closed other.text), lobby.hub) ∧
      ∀ room, lobby.hub.broadcast other room name data =
        (.error (.closed other.text), lobby.hub)) ∧
    writtenOf queue =
      queue.takeWhile (· ≠ .close) ++ (if Outbound.close ∈ queue then [.close] else []) ∧
    ∀ before later, events = before ++ later →
      let earlier := (after capacity before).hub.queueOf id
      earlier <+: queue ∧
      (Outbound.close ∈ earlier → writtenOf queue = writtenOf earlier) ∧
      (Outbound.close ∉ earlier → writtenOf earlier = earlier ∧
        writtenOf queue =
          writtenOf earlier ++ writtenOf (queue.drop (writtenOf earlier).length)) := by
  intro lobby letters queue
  have sound : Sound capacity lobby := sound_after capacity distinct
  have delivered : Delivered id letters lobby := delivered_after capacity distinct attended
  refine ⟨delivered.queued, ?_, ?_, ?_, ?_, writtenOf_eq queue, ?_⟩
  · show (lobby.hub.queueOf id).count .close ≤ _
    rw [delivered.queued]
    exact delivered.closes
  · rintro before event later visit rfl ends found lasting
    exact posted_farewell found lasting ends later
  · intro visit found lasting name data
    obtain ⟨among, rfl⟩ := mem_of_visit? found
    refine Hub.emit_succeeds ((sound.shown visit among).closed.trans lasting) ?_ name data
    rw [delivered.drained, found]
    rfl
  · intro other visit found ended name data
    obtain ⟨among, rfl⟩ := mem_of_visit? found
    have closed := (sound.shown visit among).closed.trans ended
    exact ⟨Hub.emit_of_closed closed name data, fun room =>
      Hub.broadcast_of_closed closed room name data⟩
  · rintro before later rfl
    have longer := queueOf_prefix capacity distinct attended
    exact ⟨longer, writtenOf_resumed longer⟩

/-- Two sockets meet in a room and both broadcast there. One of them emits, answers and pings, and
is disconnected; then the other one broadcasts again, and the first one tries to emit, answers once
more and is disconnected once more. -/
def exchange : List HubEvent :=
  [.reserve, .reserve, .openSocket 0 ⟨"a"⟩, .openSocket 1 ⟨"b"⟩, .call (.join ⟨"a"⟩ "r"),
    .call (.join ⟨"b"⟩ "r"), .call (.emit ⟨"a"⟩ "hello" .null),
    .call (.broadcast ⟨"b"⟩ "r" "news" .null), .call (.broadcast ⟨"a"⟩ "r" "own" .null),
    .call (.ack ⟨"a"⟩ 7 "done"), .call (.ping ⟨"a"⟩), .call (.disconnect ⟨"a"⟩),
    .call (.broadcast ⟨"b"⟩ "r" "late" .null), .call (.emit ⟨"a"⟩ "late" .null),
    .call (.ack ⟨"a"⟩ 8 "behind"), .call (.disconnect ⟨"a"⟩)]

theorem exchange_delivered :
    (exchange.filterMap HubEvent.opens?).Nodup ∧
      HubEvent.call (.abandonQueue ⟨"a"⟩) ∉ exchange ∧
      (after 2 exchange).hub.queueOf ⟨"a"⟩ =
        [.text (ServerFrame.event "hello" .null).text, .text (ServerFrame.event "news" .null).text,
          .text (ServerFrame.answer 7 "done").text, .ping, .close,
          .text (ServerFrame.answer 8 "behind").text] ∧
      writtenOf ((after 2 exchange).hub.queueOf ⟨"a"⟩) =
        [.text (ServerFrame.event "hello" .null).text, .text (ServerFrame.event "news" .null).text,
          .text (ServerFrame.answer 7 "done").text, .ping, .close] := by
  have distinct : (exchange.filterMap HubEvent.opens?).Nodup := by decide
  have attended : HubEvent.call (.abandonQueue ⟨"a"⟩) ∉ exchange := by simp [exchange]
  have letters : posted 2 ⟨"a"⟩ {} exchange =
      [.event "hello" .null, .event "news" .null, .answer 7 "done", .ping, .close,
        .answer 8 "behind"] := by rfl
  have queue := (delivery_until_close 2 exchange ⟨"a"⟩ distinct attended).1
  rw [letters] at queue
  exact ⟨distinct, attended, queue, by rw [queue]; rfl⟩

end Lobby

end SocketGateway
