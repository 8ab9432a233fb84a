import SocketGateway.Proofs.Session.Turns
import SocketGateway.Proofs.Signaling.Handlers

/-!
Contract: many sessions on one server at the same time.

Owns:
- what a server is put to use with;
- runs in which sessions take their actions in any order, frames come in, peers give up early, and
  whoever holds a connection or a client's id makes use of it;
- that whatever the registry and the hub hold, a session is there that will give it back.

Hooks and handlers may answer anything, but act on the hub by calls on sockets only.

Does not own: what follows for sessions that are over, or for limits.
-/

namespace SocketGateway

/-- What a server is put to use with. -/
structure Site (App : Type) where
  config : Config
  clock : Clock
  hooks : Hooks (Hub × App)
  signaling : Signaling (Hub × App)
  app : App
  /-- The tokens and the connections in the order in which sessions draw them. -/
  tokens : Nat → CorrelationToken
  connections : Nat → ConnectionId

/-- A session in its phase. -/
structure Course where
  request : Handshake
  phase : Phase := .requested

/-- A server and all sessions that it ever had. -/
structure Traffic (App : Type) where
  server : Server App
  courses : List Course := []

/-- What may happen next. -/
inductive TrafficEvent where
  | request (request : Handshake)
  /-- A session takes its next action. -/
  | advance (index now : Nat)
  /-- A peer gives up before its socket is open. -/
  | abandon (index : Nat)
  /-- A text comes in for a session that is online. -/
  | receive (index : Nat) (text : String)
  /-- Somebody makes use of a connection. -/
  | call (call : SocketCall)
  | signal (id : ClientId) (event : String) (data : Json)
  | idle (id : ClientId)
  | leaveIdle (id : ClientId)
  | setOption (id : ClientId) (option : String)

namespace Site

variable {App : Type}

/-- The session that came in as number `index`. -/
def session (site : Site App) (index : Nat) (request : Handshake) : Session where
  request := request
  token := site.tokens index
  connection := site.connections index

/-- The gateway before the first session. -/
def gateway (site : Site App) : Gateway (Hub × App) :=
  let fresh : Gateway (Hub × App) := .new site.config site.clock
  { fresh with hooks := site.hooks, signaling := site.signaling }

def start (site : Site App) : Traffic App where
  server := { gateway := site.gateway, app := site.app }

def perform (site : Site App) (traffic : Traffic App) : TrafficEvent → Traffic App
  | .request request => { traffic with courses := traffic.courses ++ [{ request := request }] }
  | .advance index now =>
    match traffic.courses[index]? with
    | none => traffic
    | some course =>
      let next := (site.session index course.request).advance now (course.phase, traffic.server)
      ⟨next.2, traffic.courses.set index { course with phase := next.1 }⟩
  | .abandon index =>
    match traffic.courses[index]? with
    | some ⟨request, .vetting _⟩ =>
      ⟨traffic.server.dropReservation, traffic.courses.set index ⟨request, .abandoned⟩⟩
    | _ => traffic
  | .receive index text =>
    match traffic.courses[index]? with
    | some ⟨_, .arriving (.settled (.ok _))⟩ =>
      { traffic with server := traffic.server.receive (site.connections index) text }
    | _ => traffic
  | .call call =>
    { traffic with server := { traffic.server with hub := traffic.server.hub.call call } }
  | .signal id event data => { traffic with server := (traffic.server.signal id event data).2 }
  | .idle id =>
    { traffic with
      server := { traffic.server with gateway := (traffic.server.gateway.idle id).2 } }
  | .leaveIdle id =>
    let gateway := traffic.server.gateway
    { traffic with
      server := { traffic.server with
        gateway := { gateway with clients := gateway.clients.leaveIdle id } } }
  | .setOption id option =>
    let gateway := traffic.server.gateway
    { traffic with
      server := { traffic.server with
        gateway := { gateway with clients := (gateway.clients.setOption id option).2 } } }

def after (site : Site App) (events : List TrafficEvent) : Traffic App :=
  events.foldl site.perform site.start

/-- Hooks and handlers act on the hub by calls on sockets only. `mayClose` tells whether such a call
may close a socket. -/
structure Confined (mayClose : Bool) (site : Site App) : Prop where
  hooks : site.hooks.Confined mayClose
  handlers : ∀ (event : String) (handler : Handler (Hub × App)),
    site.signaling.handlers[event]? = some handler → ∀ connection id data world,
      Hub.Reaches mayClose world.1 (handler connection id data world).2.1

/-- Whether the calls on sockets among the events are allowed. -/
def Allows (mayClose : Bool) (events : List TrafficEvent) : Prop :=
  ∀ call, .call call ∈ events → call.closes = true → mayClose = true

theorem after_concat (site : Site App) (events : List TrafficEvent) (event : TrafficEvent) :
    site.after (events ++ [event]) = site.perform (site.after events) event := by
  simp [after]

end Site

/-! ### Sessions that answer for what is held -/

/-- Each key that is held belongs to a session that may hold it. -/
def Covers (connections : Nat → ConnectionId) (courses : List Course) (may : Standing → Bool)
    (held : ConnectionId → Prop) : Prop :=
  ∀ key, held key → ∃ index course, courses[index]? = some course ∧ connections index = key ∧
    may course.phase.standing = true

namespace Covers

variable {connections : Nat → ConnectionId} {courses : List Course} {may : Standing → Bool}
  {held after : ConnectionId → Prop}

theorem mono (covers : Covers connections courses may held) (fewer : ∀ key, after key → held key) :
    Covers connections courses may after :=
  fun key isHeld => covers key (fewer key isHeld)

private theorem append (covers : Covers connections courses may held) (course : Course) :
    Covers connections (courses ++ [course]) may held := by
  intro key isHeld
  obtain ⟨index, found, isFound, sameKey, mayHold⟩ := covers key isHeld
  have inside : index < courses.length := (List.getElem?_eq_some_iff.mp isFound).1
  exact ⟨index, found, by rw [List.getElem?_append_left inside, isFound], sameKey, mayHold⟩

/-- A session that may not hold anything does not. -/
theorem may_of_held (covers : Covers connections courses may held)
    (distinct : Function.Injective connections) {index : Nat} {course : Course}
    (isAt : courses[index]? = some course) (isHeld : held (connections index)) :
    may course.phase.standing = true := by
  obtain ⟨other, found, isFound, sameKey, mayHold⟩ := covers _ isHeld
  obtain rfl := distinct sameKey
  cases isAt.symm.trans isFound
  exact mayHold

/-- One session moves on. -/
theorem set (covers : Covers connections courses may held) {index : Nat} {course next : Course}
    (isAt : courses[index]? = some course)
    (others : ∀ key, after key → connections index = key ∨ held key)
    (itself : after (connections index) → may next.phase.standing = true) :
    Covers connections (courses.set index next) may after := by
  intro key isHeld
  have inside : index < courses.length := (List.getElem?_eq_some_iff.mp isAt).1
  by_cases same : connections index = key
  · subst same
    exact ⟨index, next, by simp [inside], rfl, itself isHeld⟩
  · obtain ⟨other, found, isFound, sameKey, mayHold⟩ :=
      covers key ((others key isHeld).resolve_left same)
    have different : index ≠ other := by
      rintro rfl
      exact same sameKey
    exact ⟨other, found, by rw [List.getElem?_set_ne different, isFound], sameKey, mayHold⟩

end Covers

/-! ### Frames and events -/

namespace Server

variable {App : Type} {mayClose : Bool} (server : Server App)

/-- A frame leaves the gateway alone. Its handler acts on the hub, if there is one. -/
theorem respond_aside (confined : server.gateway.signaling.Confined mayClose) (id : ConnectionId)
    (frame : ClientFrame) :
    (server.respond id frame).2.gateway = server.gateway ∧
      Hub.Reaches mayClose server.hub (server.respond id frame).2.hub := by
  refine ⟨rfl, ?_⟩
  unfold respond Gateway.dispatch
  rcases server.gateway.signaling.dispatch_cases server.gateway.clients (Hub.connection id)
    frame.event frame.data server.world with
      ⟨-, fails⟩ | ⟨handler, found, ⟨-, fails⟩ | ⟨client, -, runs⟩⟩
  · rw [fails]
    exact .refl mayClose server.hub
  · rw [fails]
    exact .refl mayClose server.hub
  · rw [runs]
    exact confined frame.event handler found (Hub.connection id) client frame.data server.world

theorem signal_aside (mayClose : Bool) (id : ClientId) (event : String) (data : Json) :
    (server.signal id event data).2.gateway = server.gateway ∧
      Hub.Reaches mayClose server.hub (server.signal id event data).2.hub := by
  refine ⟨rfl, ?_⟩
  unfold signal Gateway.signal ClientRegistry.signaling Client.send Client.whenBound
  cases server.gateway.clients.get? id with
  | none => exact .refl mayClose server.hub
  | some client =>
    dsimp only
    cases client.connection with
    | none => exact .refl mayClose server.hub
    | some connection => exact server.hub.reaches_call (.emit connection.id event data) nofun

end Server

namespace Site

variable {App : Type}

/-! ### One event -/

/-- All that one event may make of a server and its sessions. -/
inductive Happens (mayClose : Bool) (site : Site App) (traffic : Traffic App) :
    Traffic App → Prop where
  | request (request : Handshake) :
      Happens mayClose site traffic
        ⟨traffic.server, traffic.courses ++ [{ request := request }]⟩
  | turn {index : Nat} {course next : Course} {server : Server App}
      (isAt : traffic.courses[index]? = some course)
      (turn : Turn mayClose site.config.maxConnections (site.connections index)
        (course.phase.standing, traffic.server.gateway.clients, traffic.server.hub)
        (next.phase.standing, server.gateway.clients, server.hub))
      (settings : traffic.server.gateway.SameSettings server.gateway) :
      Happens mayClose site traffic ⟨server, traffic.courses.set index next⟩
  /-- Somebody makes use of what is there. -/
  | aside {server : Server App}
      (consistent : server.gateway.clients.Consistent)
      (owners : server.gateway.clients.owners = traffic.server.gateway.clients.owners)
      (reaches : Hub.Reaches mayClose traffic.server.hub server.hub)
      (settings : traffic.server.gateway.SameSettings server.gateway) :
      Happens mayClose site traffic ⟨server, traffic.courses⟩

section Events

variable {site : Site App} {traffic : Traffic App} {mayClose : Bool}

private theorem receive_aside {server : Server App} (confined : site.Confined mayClose)
    (settings : site.gateway.SameSettings server.gateway) (id : ConnectionId) (text : String) :
    (server.receive id text).gateway = server.gateway ∧
      Hub.Reaches mayClose server.hub (server.receive id text).hub := by
  have handlers : server.gateway.signaling.Confined mayClose := by
    rw [settings.signaling]
    exact confined.handlers
  unfold Server.receive
  cases ClientFrame.ofText? text with
  | none => exact ⟨rfl, .refl mayClose server.hub⟩
  | some frame =>
    have responds := server.respond_aside handlers id frame
    dsimp only
    cases frame.ack with
    | none => exact responds
    | some number =>
      refine ⟨responds.1, responds.2.trans ?_⟩
      exact Hub.reaches_call _ (.ack id number _) nofun

theorem perform_happens (confined : site.Confined mayClose)
    (settings : site.gateway.SameSettings traffic.server.gateway)
    (consistent : traffic.server.gateway.clients.Consistent) (event : TrafficEvent)
    (allowed : ∀ call, event = .call call → call.closes = true → mayClose = true) :
    Happens mayClose site traffic (site.perform traffic event) := by
  have nothing : Happens mayClose site traffic traffic :=
    .aside consistent rfl (.refl mayClose _) (.refl _)
  cases event with
  | request request => exact .request request
  | advance index now =>
    simp only [perform]
    cases isAt : traffic.courses[index]? with
    | none => exact nothing
    | some course =>
      have hooks : traffic.server.gateway.hooks.Confined mayClose := by
        rw [settings.hooks]
        exact confined.hooks
      have capacity : traffic.server.gateway.config.maxConnections =
          site.config.maxConnections := by
        rw [settings.config]
        rfl
      obtain ⟨turn, sameSettings⟩ := Session.advance_turn hooks consistent
        (site.session index course.request) now course.phase
      rw [capacity] at turn
      exact .turn isAt turn sameSettings
  | abandon index =>
    simp only [perform]
    split
    · next request stage isAt => exact .turn isAt .giveBack (.refl _)
    · exact nothing
  | receive index text =>
    simp only [perform]
    split
    · obtain ⟨sameGateway, reaches⟩ :=
        receive_aside confined settings (site.connections index) text
      refine .aside ?_ ?_ reaches ?_ <;> rw [sameGateway]
      · exact consistent
      · exact .refl _
    · exact nothing
  | call call =>
    exact .aside consistent rfl (Hub.reaches_call _ call (allowed call rfl)) (.refl _)
  | signal id event data =>
    obtain ⟨sameGateway, reaches⟩ := traffic.server.signal_aside mayClose id event data
    refine .aside ?_ ?_ reaches ?_ <;> rw [sameGateway]
    · exact consistent
    · exact .refl _
  | idle id =>
    refine .aside (consistent.idle id _) ?_ (.refl mayClose _) ⟨rfl, rfl, rfl⟩
    simp only [Gateway.idle, ClientRegistry.idle]
    split <;> rfl
  | leaveIdle id => exact .aside (consistent.leaveIdle id) rfl (.refl mayClose _) ⟨rfl, rfl, rfl⟩
  | setOption id option =>
    refine .aside (consistent.setOption id option) ?_ (.refl mayClose _) ⟨rfl, rfl, rfl⟩
    dsimp only
    rw [ClientRegistry.setOption_eq]

end Events

/-! ### What every event keeps -/

/-- Whatever registry and hub hold, a session is there that will give it back. -/
structure Orderly (site : Site App) (traffic : Traffic App) : Prop where
  settings : site.gateway.SameSettings traffic.server.gateway
  consistent : traffic.server.gateway.clients.Consistent
  rooms : traffic.server.hub.Consistent
  bound : Covers site.connections traffic.courses Standing.mayBind fun key =>
    (traffic.server.gateway.clients.lookup key).isSome
  opened : Covers site.connections traffic.courses Standing.mayBeOpen fun key =>
    key ∈ traffic.server.hub.peers
  reserved : traffic.server.hub.reserved =
    traffic.courses.countP fun course => course.phase.standing = .waiting

section

variable {site : Site App} {traffic : Traffic App} {mayClose : Bool}

theorem orderly_start (site : Site App) : site.Orderly site.start where
  settings := .refl _
  consistent := ClientRegistry.consistent_empty
  rooms := Hub.consistent_empty
  bound := by
    intro key belongs
    simp [start, gateway, Gateway.new, ClientRegistry.lookup] at belongs
  opened := by
    intro key isPeer
    simp [start] at isPeer
  reserved := rfl

/-- A waiting session is counted. -/
theorem Orderly.held (orderly : site.Orderly traffic) {index : Nat} {course : Course}
    (isAt : traffic.courses[index]? = some course) (waits : course.phase.standing = .waiting) :
    0 < traffic.server.hub.reserved := by
  rw [orderly.reserved, List.countP_pos_iff]
  exact ⟨course, List.mem_of_getElem? isAt, by simpa using waits⟩

theorem Orderly.turn (orderly : site.Orderly traffic)
    (distinct : Function.Injective site.connections) {index : Nat} {course next : Course}
    {server : Server App} {capacity : Nat} (isAt : traffic.courses[index]? = some course)
    (turn : Turn mayClose capacity (site.connections index)
      (course.phase.standing, traffic.server.gateway.clients, traffic.server.hub)
      (next.phase.standing, server.gateway.clients, server.hub))
    (settings : traffic.server.gateway.SameSettings server.gateway) :
    site.Orderly ⟨server, traffic.courses.set index next⟩ where
  settings := orderly.settings.trans settings
  consistent := turn.consistent orderly.consistent
  rooms := turn.rooms (orderly.opened.may_of_held distinct isAt) orderly.rooms
  bound := orderly.bound.set isAt (fun _ => turn.lookup orderly.consistent)
    (turn.mayBind orderly.consistent (orderly.bound.may_of_held distinct isAt))
  opened := orderly.opened.set isAt (fun _ => turn.mem_peers)
    (turn.mayBeOpen (orderly.opened.may_of_held distinct isAt))
  reserved := by
    have inside : index < traffic.courses.length := (List.getElem?_eq_some_iff.mp isAt).1
    have isCourse : traffic.courses[index] = course := (List.getElem?_eq_some_iff.mp isAt).2
    have change := turn.reserved (orderly.held isAt)
    have positive := orderly.held isAt
    -- one session more or less waits, and one reservation more or less is counted
    rw [List.countP_set inside, isCourse, ← orderly.reserved]
    simp only [decide_eq_true_eq]
    dsimp only at change
    by_cases waits : course.phase.standing = .waiting
    · rw [if_pos waits] at change ⊢
      have := positive waits
      omega
    · rw [if_neg waits] at change ⊢
      omega

theorem Orderly.happens {next : Traffic App} (orderly : site.Orderly traffic)
    (distinct : Function.Injective site.connections)
    (happens : Happens mayClose site traffic next) : site.Orderly next := by
  cases happens with
  | request request =>
    exact {
      settings := orderly.settings
      consistent := orderly.consistent
      rooms := orderly.rooms
      bound := orderly.bound.append _
      opened := orderly.opened.append _
      reserved := by
        rw [List.countP_append, ← orderly.reserved]
        rfl }
  | turn isAt turn settings => exact orderly.turn distinct isAt turn settings
  | aside consistent owners reaches settings =>
    exact {
      settings := orderly.settings.trans settings
      consistent := consistent
      rooms := reaches.follows.consistent orderly.rooms
      bound := by
        refine orderly.bound.mono fun key belongs => ?_
        rw [ClientRegistry.lookup, owners] at belongs
        exact belongs
      opened := orderly.opened.mono fun key isPeer => reaches.follows.peers isPeer
      reserved := reaches.follows.reserved.trans orderly.reserved }

theorem orderly_after (confined : site.Confined mayClose)
    (distinct : Function.Injective site.connections) (events : List TrafficEvent)
    (allowed : Allows mayClose events) : site.Orderly (site.after events) := by
  induction events using List.reverseRecOn with
  | nil => exact site.orderly_start
  | append_singleton events event inductionHypothesis =>
    have orderly := inductionHypothesis fun call among =>
      allowed call (List.mem_append_left [event] among)
    rw [after_concat]
    refine orderly.happens distinct
      (perform_happens confined orderly.settings orderly.consistent event ?_)
    rintro call rfl
    exact allowed call (by simp)

end

end Site

end SocketGateway
