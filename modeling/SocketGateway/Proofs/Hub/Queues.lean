import SocketGateway.Proofs.Hub.Rooms

/-!
Contract: what calls queue for a socket, and what its writer makes of the queue.

Owns:
- the items that a socket receives from one hub to the next, and how they add up;
- what each operation of a hub sends to a socket;
- what is written of a queue at once or piece by piece, and that nothing follows a close.

Does not own: runs of events.
-/

namespace SocketGateway

namespace Hub

/-- From the first hub to the second one, a socket received the items in that order: they were
queued, if somebody takes from its queue. -/
structure Receives (other : ConnectionId) (items : List Outbound) (before after : Hub) : Prop where
  drained : (after.socket other).drained = (before.socket other).drained
  queued : after.queueOf other =
    before.queueOf other ++ if (before.socket other).drained then items else []

section

variable {hub before middle after : Hub} {id other : ConnectionId} {items more : List Outbound}

theorem Receives.of_socket (same : after.socket other = before.socket other) :
    Receives other [] before after where
  drained := by rw [same]
  queued := by simp [queueOf, same]

theorem Receives.refl (other : ConnectionId) (hub : Hub) : Receives other [] hub hub :=
  Receives.of_socket rfl

theorem Receives.trans (first : Receives other items before middle)
    (second : Receives other more middle after) : Receives other (items ++ more) before after where
  drained := second.drained.trans first.drained
  queued := by
    rw [second.queued, first.queued, first.drained, List.append_assoc]
    split <;> rfl

theorem Receives.nothing (received : Receives other [] before after) :
    after.queueOf other = before.queueOf other := by
  simp [received.queued]

/-- A socket from whose queue nobody takes receives nothing, whatever is sent to it. -/
theorem Receives.idle (received : Receives other items before after)
    (idle : (before.socket other).drained = false) : Receives other [] before after where
  drained := received.drained
  queued := by simp [received.queued, idle]

private theorem socket_insert (hub : Hub) (id other : ConnectionId) (socket : Socket) :
    Hub.socket { hub with sockets := hub.sockets.insert id socket } other =
      if id = other then socket else hub.socket other := by
  by_cases same : id = other <;> simp [Hub.socket, Std.TreeMap.getD_insert, same]

/-! ### Operations -/

theorem receives_enqueue (hub : Hub) (id other : ConnectionId) (item : Outbound) :
    Receives other (if id = other then [item] else []) hub (hub.enqueue id item).2 := by
  by_cases same : id = other
  · subst same
    unfold enqueue
    dsimp only
    rw [if_pos rfl]
    split
    · next drained => constructor <;> simp [queueOf, socket_insert, drained]
    · next nobody => constructor <;> simp [nobody]
  · rw [if_neg same]
    refine Receives.of_socket ?_
    unfold enqueue
    dsimp only
    split
    · rw [socket_insert, if_neg same]
    · rfl

/-- Whoever is among different receivers receives the item once. -/
theorem receives_offers (item : Outbound) (other : ConnectionId) {receivers : List ConnectionId}
    (distinct : receivers.Nodup) (hub : Hub) :
    Receives other (if other ∈ receivers then [item] else []) hub
      (receivers.foldl (fun hub member => hub.offer member item) hub) := by
  induction receivers generalizing hub with
  | nil => exact Receives.refl other hub
  | cons receiver rest inductionHypothesis =>
    obtain ⟨notAgain, distinctRest⟩ := List.nodup_cons.mp distinct
    have received :=
      (hub.receives_enqueue receiver other item).trans (inductionHypothesis distinctRest _)
    rw [List.foldl_cons, offer]
    by_cases first : receiver = other
    · subst first
      simpa [notAgain] using received
    · simpa [first, Ne.symm first] using received

private theorem socket_detach (hub : Hub) (id other : ConnectionId) :
    (hub.detach id).socket other = hub.socket other := by
  unfold detach
  cases hub.peers[id]? <;> rfl

private theorem receives_markClosed (hub : Hub) (id other : ConnectionId) :
    Receives other [] hub (hub.markClosed id) := by
  by_cases same : id = other
  · subst same
    constructor <;> simp [queueOf, markClosed, socket_insert]
  · refine Receives.of_socket ?_
    rw [markClosed, socket_insert, if_neg same]

/-- A release queues nothing. -/
theorem receives_release (hub : Hub) (id other : ConnectionId) :
    Receives other [] hub (hub.release id) :=
  (hub.receives_markClosed id other).trans (Receives.of_socket (socket_detach _ id other))

/-- A disconnect queues a close, and only the first one does. -/
theorem receives_disconnect (hub : Hub) (id other : ConnectionId) :
    Receives other (if id = other ∧ hub.isClosed id = false then [.close] else []) hub
      (hub.disconnect id) := by
  cases closed : hub.isClosed id with
  | true => simpa [disconnect, closed] using Receives.refl other hub
  | false =>
    have received := (hub.receives_release id other).trans (receives_enqueue _ id other .close)
    simpa [disconnect, closed, offer, release] using received

theorem receives_emit (hub : Hub) (id other : ConnectionId) (event : String) (data : Json) :
    Receives other
      (if id = other ∧ hub.isClosed id = false then [.text (ServerFrame.event event data).text]
        else [])
      hub (hub.emit id event data).2 := by
  cases closed : hub.isClosed id with
  | true => simpa [emit, closed] using Receives.refl other hub
  | false =>
    have received := hub.receives_enqueue id other (.text (ServerFrame.event event data).text)
    simpa [emit, closed, sendFrame] using received

/-- A broadcast is received by the members of the room that are on the hub, but the sender. -/
theorem receives_broadcast (hub : Hub) (sender other : ConnectionId) (room event : String)
    (data : Json) :
    Receives other
      (if hub.isClosed sender = false ∧ sender ≠ other ∧ other ∈ hub.membersOf room ∧
          other ∈ hub.peers
        then [.text (ServerFrame.event event data).text] else [])
      hub (hub.broadcast sender room event data).2 := by
  cases closed : hub.isClosed sender with
  | true => simpa [broadcast, closed] using Receives.refl other hub
  | false =>
    have distinct := (hub.nodup_membersOf room).filter fun member =>
      decide (member ≠ sender) && hub.peers.contains member
    have received := receives_offers (.text (ServerFrame.event event data).text) other distinct hub
    have among : other ∈ ((hub.membersOf room).filter fun member =>
        decide (member ≠ sender) && hub.peers.contains member) ↔
        sender ≠ other ∧ other ∈ hub.membersOf room ∧ other ∈ hub.peers := by
      simp only [List.mem_filter, Bool.and_eq_true, decide_eq_true_eq, Std.TreeMap.contains_iff_mem,
        ne_comm (a := other)]
      tauto
    simpa only [among, broadcast, closed, Bool.false_eq_true, if_false, true_and] using received

theorem receives_join (hub : Hub) (id other : ConnectionId) (room : String) :
    Receives other [] hub (hub.join id room).2 := by
  refine Receives.of_socket ?_
  unfold join
  cases hub.peers[id]? <;> rfl

theorem receives_leave (hub : Hub) (id other : ConnectionId) (room : String) :
    Receives other [] hub (hub.leave id room).2 := by
  refine Receives.of_socket ?_
  unfold leave
  cases hub.peers[id]? <;> rfl

theorem receives_abandonQueue (hub : Hub) (different : id ≠ other) :
    Receives other [] hub (hub.abandonQueue id) := by
  refine Receives.of_socket ?_
  rw [abandonQueue, socket_insert, if_neg different]

theorem receives_openSocket (hub : Hub) (different : id ≠ other) :
    Receives other [] hub (hub.openSocket id) := by
  refine Receives.of_socket ?_
  simp [openSocket, Hub.socket, Std.TreeMap.getD_insert, different]

/-- Nobody begins to take from a queue. -/
theorem receives_call_idle (idle : (hub.socket other).drained = false) (call : SocketCall) :
    Receives other [] hub (hub.call call) := by
  cases call with
  | emit id event data => exact (hub.receives_emit id other event data).idle idle
  | join id room => exact hub.receives_join id other room
  | leave id room => exact hub.receives_leave id other room
  | broadcast sender room event data =>
    exact (hub.receives_broadcast sender other room event data).idle idle
  | ack id number response => exact (hub.receives_enqueue id other _).idle idle
  | ping id => exact (hub.receives_enqueue id other _).idle idle
  | disconnect id => exact (hub.receives_disconnect id other).idle idle
  | abandonQueue id =>
    by_cases same : id = other
    · subst same
      constructor <;> simp [call, queueOf, abandonQueue, socket_insert, idle]
    · exact hub.receives_abandonQueue same

/-! ### Closed sockets -/

/-- A socket that is closed emits nothing. -/
theorem emit_of_closed (closed : hub.isClosed id = true) (event : String) (data : Json) :
    hub.emit id event data = (.error (.closed id.text), hub) := by
  rw [emit, if_pos closed, gone]

theorem broadcast_of_closed (closed : hub.isClosed id = true) (room event : String) (data : Json) :
    hub.broadcast id room event data = (.error (.closed id.text), hub) := by
  rw [broadcast, if_pos closed, gone]

/-- A socket that is not closed and whose queue is taken from emits. -/
theorem emit_succeeds (lasting : hub.isClosed id = false) (drained : (hub.socket id).drained = true)
    (event : String) (data : Json) : (hub.emit id event data).1 = .ok () := by
  simp [emit, lasting, sendFrame, enqueue, drained]

end

end Hub

/-! ### Writers -/

section

variable {queue more : List Outbound}

/-- What is written of a queue: all that precedes the first close, and that close. -/
theorem writtenOf_eq (queue : List Outbound) :
    writtenOf queue =
      queue.takeWhile (· ≠ .close) ++ if Outbound.close ∈ queue then [.close] else [] := by
  fun_induction writtenOf queue with
  | case1 => rfl
  | case2 rest => simp
  | case3 item rest notClose inductionHypothesis =>
    have isOther : item ≠ .close := fun isClose => notClose isClose
    simp [inductionHypothesis, isOther, Ne.symm isOther]

/-- What comes after a close is not written. -/
theorem writtenOf_append_of_close (close : Outbound.close ∈ queue) (more : List Outbound) :
    writtenOf (queue ++ more) = writtenOf queue := by
  induction queue with
  | nil => cases close
  | cons item rest inductionHypothesis =>
    cases item with
    | close => rfl
    | text content =>
      have later : Outbound.close ∈ rest := by simpa using close
      simp only [List.cons_append, writtenOf, inductionHypothesis later]
    | ping =>
      have later : Outbound.close ∈ rest := by simpa using close
      simp only [List.cons_append, writtenOf, inductionHypothesis later]

/-- A writer that wrote a queue without a close goes on with what is queued behind it. -/
theorem writtenOf_append (noClose : Outbound.close ∉ queue) (more : List Outbound) :
    writtenOf (queue ++ more) = queue ++ writtenOf more := by
  induction queue with
  | nil => rfl
  | cons item rest inductionHypothesis =>
    rw [List.mem_cons, not_or] at noClose
    obtain ⟨isOther, noCloseLater⟩ := noClose
    cases item with
    | close => exact absurd rfl isOther
    | text content => simp only [List.cons_append, writtenOf, inductionHypothesis noCloseLater]
    | ping => simp only [List.cons_append, writtenOf, inductionHypothesis noCloseLater]

/-- A queue without a close is written as it is. -/
theorem writtenOf_eq_self (noClose : Outbound.close ∉ queue) : writtenOf queue = queue := by
  simpa [writtenOf] using writtenOf_append noClose []

/-- A writer that comes back to a longer queue goes on behind what it wrote, unless that ended with
a close. -/
theorem writtenOf_resumed {earlier : List Outbound} (longer : earlier <+: queue) :
    (Outbound.close ∈ earlier → writtenOf queue = writtenOf earlier) ∧
      (Outbound.close ∉ earlier → writtenOf earlier = earlier ∧
        writtenOf queue =
          writtenOf earlier ++ writtenOf (queue.drop (writtenOf earlier).length)) := by
  obtain ⟨more, rfl⟩ := longer
  refine ⟨fun close => writtenOf_append_of_close close more, ?_⟩
  intro noClose
  rw [writtenOf_eq_self noClose, List.drop_left]
  exact ⟨rfl, writtenOf_append noClose more⟩

end

end SocketGateway
