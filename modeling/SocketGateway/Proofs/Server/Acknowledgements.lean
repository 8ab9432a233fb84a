import SocketGateway.Proofs.Hub.Queues
import SocketGateway.Proofs.Json.Outbound
import SocketGateway.Proofs.Server.Workload
import SocketGateway.Proofs.Signaling.Handlers
import SocketGateway.Signaling.Stock

/-!
Contract: what an inbound text comes to.

Owns:
- which handler answers a frame and as which client, or why none does;
- the acknowledgement of a frame that wants one, as its receiver reads it.

Does not own: what handlers do to the hub.
-/

namespace SocketGateway

namespace Server

variable {App : Type}

/-- What becomes of a frame: the handler of its event answers it as the client that is bound to the
connection, or no handler runs and the world stays as it is. -/
inductive Answers (server : Server App) (id : ConnectionId) (frame : ClientFrame) :
    Except DispatchError String → Hub × App → Prop where
  | handled {handler : Handler (Hub × App)} {client : ClientId} {response : String}
      {world : Hub × App} (known : server.gateway.signaling.handlers[frame.event]? = some handler)
      (bound : server.gateway.clients.lookup id = some client)
      (runs : handler (Hub.connection id) client frame.data server.world = (response, world)) :
      Answers server id frame (.ok response) world
  | unknownEvent (unknown : server.gateway.signaling.handlers[frame.event]? = none) :
      Answers server id frame (.error (.unknownEvent frame.event)) server.world
  | unregistered {handler : Handler (Hub × App)}
      (known : server.gateway.signaling.handlers[frame.event]? = some handler)
      (unbound : server.gateway.clients.lookup id = none) :
      Answers server id frame (.error (.unregistered id.text)) server.world

/-- The data that acknowledge an answer: a response that is JSON is embedded, any other one is a
string, and an envelope says why no handler ran. -/
inductive Acknowledges : Except DispatchError String → Json → Prop where
  | json {response : String} {value : Json} (spells : Json.ofText? response = some value) :
      Acknowledges (.ok response) value
  | text {response : String} (spells : Json.ofText? response = none) :
      Acknowledges (.ok response) (.string response)
  | failure {cause : DispatchError} {data : Json}
      (carries : AckEnvelope.ofTree? data.tree = some ⟨AckEnvelope.failed, cause.message⟩) :
      Acknowledges (.error cause) data

/-- A JSON response has no floats and leaves a level of nesting to the frame around it. -/
def Fits : Except DispatchError String → Prop
  | .ok response =>
    ∀ value, Json.ofText? response = some value → value.FloatFree ∧ value.depth ≤ 126
  | .error _ => True

/-- One text was queued for a socket, if somebody takes from its queue, and that is all. -/
structure Queues (id : ConnectionId) (content : String) (before after : Server App) : Prop where
  gateway : after.gateway = before.gateway
  app : after.app = before.app
  queue : after.hub.queueOf id =
    before.hub.queueOf id ++ if (before.hub.socket id).drained then [.text content] else []
  elsewhere : ∀ other, other ≠ id → after.hub.queueOf other = before.hub.queueOf other

/-- The text that answers a frame. -/
def responseOf : Except DispatchError String → String
  | .ok response => response
  | .error cause => ackError cause.message

theorem answers_dispatch (server : Server App) (id : ConnectionId) (frame : ClientFrame) :
    let dispatched :=
      server.gateway.dispatch (Hub.connection id) frame.event frame.data server.world
    server.Answers id frame dispatched.1 dispatched.2 := by
  dsimp only
  unfold Gateway.dispatch
  rcases server.gateway.signaling.dispatch_cases server.gateway.clients (Hub.connection id)
    frame.event frame.data server.world with
      ⟨unknown, fails⟩ | ⟨handler, known, ⟨unbound, fails⟩ | ⟨client, bound, runs⟩⟩
  · rw [fails]
    exact .unknownEvent unknown
  · rw [fails]
    exact .unregistered known unbound
  · rw [runs]
    exact .handled known bound rfl

private theorem respond_eq (server : Server App) (id : ConnectionId) (frame : ClientFrame) :
    let dispatched :=
      server.gateway.dispatch (Hub.connection id) frame.event frame.data server.world
    server.respond id frame = (responseOf dispatched.1, update server.gateway dispatched.2) :=
  rfl

private theorem acknowledges_answer {answer : Except DispatchError String} (fits : Fits answer)
    (number : UInt64) : ∃ data, Acknowledges answer data ∧
      ServerFrame.ofText? (ServerFrame.answer number (responseOf answer)).text =
        some (.ack number data) := by
  cases answer with
  | ok response =>
    have floatFree : ∀ value, Json.ofText? response = some value → value.FloatFree :=
      fun value spells => (fits value spells).1
    have notFull : ¬ ServerFrame.ValueHasDepth response 127 := by
      rintro ⟨value, spells, full⟩
      have within := (fits value spells).2
      omega
    simp only [responseOf, ServerFrame.ofText?_answer number floatFree notFull]
    rcases ServerFrame.answer_cases number response with
      ⟨spells, isText⟩ | ⟨value, spells, isValue⟩
    · exact ⟨.string response, .text spells, congrArg some isText⟩
    · exact ⟨value, .json spells, congrArg some isValue⟩
  | error cause =>
    refine ⟨_, .failure (AckEnvelope.ofTree?_value _), ?_⟩
    rw [responseOf, answer_ackError]
    exact ServerFrame.ofText?_text (AckEnvelope.normal_value _) (AckEnvelope.floatFree_value _)
      (Nat.lt_of_le_of_lt (Nat.le_of_eq (AckEnvelope.depth_value _)) (by decide))

private theorem queues_sendAck (server : Server App) (id : ConnectionId) (number : UInt64)
    (response : String) :
    Queues id (ServerFrame.answer number response).text server
      { server with hub := (server.hub.sendAck id number response).2 } where
  gateway := rfl
  app := rfl
  queue := by
    have received := server.hub.receives_enqueue id id
      (.text (ServerFrame.answer number response).text)
    rw [if_pos rfl] at received
    exact received.queued
  elsewhere := by
    intro other different
    have received := server.hub.receives_enqueue id other
      (.text (ServerFrame.answer number response).text)
    rw [if_neg different.symm] at received
    exact received.nothing

/-- A text that is no frame changes nothing. A frame is answered by the handler of its event as the
client of the connection, or by none. If it has an acknowledgement number, and only then, one more
text is queued for its sender once the handler is through. That text is read as the acknowledgement
under this number of what was answered. -/
theorem receive_acknowledges (server : Server App) (id : ConnectionId) (text : String) :
    (ClientFrame.ofText? text = none → server.receive id text = server) ∧
    ∀ frame, ClientFrame.ofText? text = some frame →
      ∃ answer world, server.Answers id frame answer world ∧
        (frame.ack = none → server.receive id text = update server.gateway world) ∧
        ∀ number, frame.ack = some number →
          ∃ content, Queues id content (update server.gateway world) (server.receive id text) ∧
            (Fits answer → ∃ data, Acknowledges answer data ∧
              ServerFrame.ofText? content = some (.ack number data)) := by
  constructor
  · intro unreadable
    rw [receive, unreadable]
  · intro frame readable
    refine ⟨_, _, server.answers_dispatch id frame, ?_, ?_⟩
    · intro unwanted
      rw [receive, readable]
      dsimp only
      rw [respond_eq, unwanted]
    · intro number wanted
      refine ⟨_, ?_, fun fits => acknowledges_answer fits number⟩
      rw [receive, readable]
      dsimp only
      rw [respond_eq, wanted]
      exact queues_sendAck _ id number _

/-- A client is online at a server that tells clients who they are. -/
def enquiry : Server Journal :=
  let arrival : List (WorkloadEvent Journal) :=
    [.openSocket ⟨"a"⟩, .authenticate (Handshake.withQuery {} "token" "u1") ⟨"s"⟩, .advance 0 0,
      .advance 0 0, .connect ⟨"s"⟩ ⟨"a"⟩, .advance 1 0, .advance 1 0, .advance 1 0]
  let server := ((Workload.start {} (.fixed 0) []).run arrival).server
  { server with
    gateway := server.gateway.setAdapter
      (StockHandler.adaptor (Hub.transport Journal) Network.note StockHandler.demo) }

def question : ClientFrame := { event := "whoami", ack := some 7 }

theorem enquiry_acknowledged :
    ∃ content, (enquiry.receive ⟨"a"⟩ question.text).hub.queueOf ⟨"a"⟩ = [.text content] ∧
      ServerFrame.ofText? content =
        some (.ack 7 (AckEnvelope.value ⟨AckEnvelope.succeeded, "u1"⟩)) := by
  have reads : (ClientFrame.ofText? question.text).map (fun frame => (frame.event, frame.ack)) =
      some ("whoami", some 7) := by decide +kernel
  obtain ⟨frame, readable, fields⟩ := Option.map_eq_some_iff.mp reads
  obtain ⟨event, wanted⟩ := Prod.mk.inj fields
  have known : enquiry.gateway.signaling.handlers[frame.event]? =
      some (StockHandler.whoami.handler (Hub.transport Journal) Network.note) := by
    rw [event]
    unfold enquiry
    dsimp only
    generalize Workload.run _ _ = workload
    simp [Gateway.setAdapter, Signaling.setAdapter, StockHandler.adaptor, StockHandler.demo,
      Signaling.addEvent]
  have bound : enquiry.gateway.clients.lookup ⟨"a"⟩ = some ⟨"u1"⟩ := by decide +kernel
  have waiting : enquiry.hub.socket ⟨"a"⟩ = {} := by decide +kernel
  obtain ⟨answer, world, answers, -, acknowledged⟩ :=
    (enquiry.receive_acknowledges ⟨"a"⟩ _).2 frame readable
  obtain ⟨content, queues, decodes⟩ := acknowledged 7 wanted
  cases answers with
  | unknownEvent unknown => cases unknown.symm.trans known
  | unregistered _ unbound => cases unbound.symm.trans bound
  | handled found belongs runs =>
    cases found.symm.trans known
    cases belongs.symm.trans bound
    cases runs
    have spells : Json.ofText? (ackOk "u1") = some (AckEnvelope.value ⟨0, "u1"⟩) :=
      AckEnvelope.ofText?_compact _
    have fits : Fits (.ok (ackOk "u1")) := by
      intro value isValue
      cases spells.symm.trans isValue
      exact ⟨AckEnvelope.floatFree_value _, by rw [AckEnvelope.depth_value]; decide⟩
    refine ⟨content, ?_, ?_⟩
    · -- the handler noted its call, and left the hub alone
      refine queues.queue.trans ?_
      change (enquiry.hub.socket ⟨"a"⟩).queued ++
        (if (enquiry.hub.socket ⟨"a"⟩).drained then [.text content] else []) = [.text content]
      rw [waiting]
      rfl
    · obtain ⟨data, acknowledges, read⟩ := decodes fits
      cases acknowledges with
      | json isValue =>
        cases spells.symm.trans isValue
        exact read
      | text isNone => cases spells.symm.trans isNone

end Server

end SocketGateway
