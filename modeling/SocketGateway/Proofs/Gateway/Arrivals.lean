import SocketGateway.Proofs.Gateway.Usage
import SocketGateway.Proofs.Registry.IdleOrder

/-!
Contract: what comes of a connect event.

Owns:
- the acts of a connect event on the world: which connections it closes, and whom it tells the hook
  of, in order;
- the outcomes of a connect event, with what each of them leaves of the registry, and that a gateway
  in use knows no other outcome.

Does not own: which binds wait.
-/

namespace SocketGateway

/-- What a connect event does to the world. -/
inductive ConnectAct where
  | close (connection : Connection)
  /-- The connect hook is told of a client. -/
  | tell (bind : PendingBind)
deriving DecidableEq, Repr

namespace ConnectAct

variable {World : Type}

def perform (transport : Transport World) (hooks : Hooks World) (world : World) :
    ConnectAct → World
  | .close connection => transport.disconnect connection world
  | .tell bind =>
    match hooks.connect with
    | none => world
    | some hook => (hook bind.client bind.option world).2

def performAll (transport : Transport World) (hooks : Hooks World) (acts : List ConnectAct)
    (world : World) : World :=
  acts.foldl (perform transport hooks) world

private theorem performAll_append (transport : Transport World) (hooks : Hooks World)
    (first second : List ConnectAct) (world : World) :
    performAll transport hooks (first ++ second) world =
      performAll transport hooks second (performAll transport hooks first world) :=
  List.foldl_append

private theorem performAll_close_toList (transport : Transport World) (hooks : Hooks World)
    (connection? : Option Connection) (world : World) :
    performAll transport hooks (connection?.toList.map .close) world =
      transport.disconnectAny connection? world := by
  cases connection? <;> rfl

private theorem performAll_tell_nobody (transport : Transport World) {hooks : Hooks World}
    (missing : hooks.connect = none) (acts : List ConnectAct) (bind : PendingBind) (world : World) :
    performAll transport hooks (acts ++ [.tell bind]) world =
      performAll transport hooks acts world := by
  simp [performAll, perform, missing]

end ConnectAct

namespace Gateway

variable {World : Type}

/-- The connect event of a connection takes up a bind that waits: its client is registered, and
leaves the connections to be closed. -/
structure TakesUp (gateway left : Gateway World) (token : CorrelationToken)
    (connection : Connection) (now : Nat) (bind : PendingBind) (leaves : List Connection) :
    Prop where
  waited : (gateway.pending.beginConnect token now).1 = .admitted (some bind)
  registered : left.clients =
    (gateway.clients.register bind.client connection bind.option gateway.clock.now).registry
  evicted : leaves =
    (gateway.clients.register bind.client connection bind.option gateway.clock.now).evicted.toList
  /-- Only the client's own connection is left, and never for itself. -/
  own : ∀ former ∈ leaves,
    gateway.clients.connectionOf bind.client = some former ∧ former.id ≠ connection.id
  online : left.clients.IsOn bind.client connection.id
  others : ∀ other, other ≠ bind.client → ¬ gateway.clients.IsOn other connection.id →
    left.clients.get? other = gateway.clients.get? other

/-- What a connect event may come to, by its answer. -/
def Concludes (gateway : Gateway World) (transport : Transport World) (token : CorrelationToken)
    (connection : Connection) (now : Nat) (world : World) : Prop :=
  let outcome := gateway.connect transport token connection now world
  let left := outcome.2.1
  ∃ acts, outcome.2.2 = ConnectAct.performAll transport gateway.hooks acts world ∧
    match outcome.1 with
    | .error .duplicateCallback =>
      (gateway.pending.beginConnect token now).1 = .duplicate ∧ acts = [] ∧
        left.clients = gateway.clients ∧ left.pending.binds = gateway.pending.binds
    | .error .noPendingBind =>
      (gateway.pending.beginConnect token now).1 = .admitted none ∧ acts = [.close connection] ∧
        left.clients = gateway.clients
    | .error (.registration _) => False
    | .error (.rejected reason) => ∃ bind leaves hook,
      gateway.TakesUp left token connection now bind leaves ∧ gateway.hooks.connect = some hook ∧
        acts = leaves.map .close ++ [.tell bind, .close connection] ∧
        (hook bind.client bind.option (ConnectAct.performAll transport gateway.hooks
          (leaves.map .close) world)).1 = .error reason
    | .ok id => ∃ bind leaves,
      gateway.TakesUp left token connection now bind leaves ∧ id = bind.client ∧
        match gateway.hooks.connect with
        | none => acts = leaves.map .close
        | some hook =>
          acts = leaves.map .close ++ [.tell bind] ∧
            (hook bind.client bind.option (ConnectAct.performAll transport gateway.hooks
              (leaves.map .close) world)).1 = .ok ()

variable {gateway : Gateway World} {token : CorrelationToken} {connection : Connection} {now : Nat}

/-- A gateway with a consistent registry takes up every bind that waits. -/
theorem takesUp_register (consistent : gateway.clients.Consistent) {bind : PendingBind}
    (waited : (gateway.pending.beginConnect token now).1 = .admitted (some bind))
    {left : Gateway World}
    (registered : left.clients =
      (gateway.clients.register bind.client connection bind.option gateway.clock.now).registry) :
    gateway.TakesUp left token connection now bind
      (gateway.clients.register bind.client connection bind.option
        gateway.clock.now).evicted.toList := by
  refine ⟨waited, registered, rfl, ?_, ?_, ?_⟩
  all_goals by_cases same : gateway.clients.IsOn bind.client connection.id
  · rw [ClientRegistry.register_same same]
    exact nofun
  · intro former leaves
    have ⟨_, isEvicted, _⟩ := ClientRegistry.register_moved consistent same bind.option
      gateway.clock.now
    rw [isEvicted, Option.mem_toList] at leaves
    refine ⟨leaves, ?_⟩
    intro itself
    exact same (ClientRegistry.isOn_iff.mpr ⟨former, leaves, itself⟩)
  · rw [registered, ClientRegistry.register_same same]
    exact same
  · have ⟨_, _, moved⟩ := ClientRegistry.register_moved consistent same bind.option
      gateway.clock.now
    rw [registered, moved.isOn_iff, if_pos rfl]
  · intro other _ _
    rw [registered, ClientRegistry.register_same same]
  · intro other different elsewhere
    have ⟨_, _, moved⟩ := ClientRegistry.register_moved consistent same bind.option
      gateway.clock.now
    rw [ClientRegistry.get?, registered, moved.clients, if_neg different.symm, if_neg elsewhere]
    rfl

/-- The acts of announcing a client, and the answer that comes of them. -/
theorem announce_acts (gateway : Gateway World) (transport : Transport World)
    (connection : Connection) (bind : PendingBind) (world : World) :
    match gateway.hooks.connect with
    | none => gateway.announce transport connection bind world = (.ok bind.client, world)
    | some hook =>
      match (hook bind.client bind.option world).1 with
      | .ok () => gateway.announce transport connection bind world =
          (.ok bind.client, ConnectAct.performAll transport gateway.hooks [.tell bind] world)
      | .error reason => gateway.announce transport connection bind world =
          (.error (.rejected reason),
            ConnectAct.performAll transport gateway.hooks [.tell bind, .close connection]
              world) := by
  unfold announce ConnectAct.performAll
  simp only [List.foldl, ConnectAct.perform]
  cases gateway.hooks.connect with
  | none => rfl
  | some hook =>
    dsimp only
    cases hook bind.client bind.option world with
    | mk answer after => cases answer <;> rfl

/-- A connect event whose bind waits registers the client, and then announces it. -/
theorem connect_registers (consistent : gateway.clients.Consistent) (transport : Transport World)
    (connection : Connection) (world : World) {pending : PendingBinds} {bind : PendingBind}
    (begun : gateway.pending.beginConnect token now = (.admitted (some bind), pending)) :
    ∃ left : Gateway World, left.hooks = gateway.hooks ∧
      left.clients =
        (gateway.clients.register bind.client connection bind.option gateway.clock.now).registry ∧
      gateway.connect transport token connection now world =
        let told := left.announce transport connection bind
          (transport.disconnectAny (gateway.clients.register bind.client connection bind.option
            gateway.clock.now).evicted world)
        (told.1, left, told.2) := by
  refine ⟨(({ gateway with pending := pending } : Gateway World).register transport bind.client
    connection bind.option world).2.1, rfl, rfl, ?_⟩
  simp only [connect, begun, register, consistent.register_ok]

/-- A connect event whose bind waits ends with the hook's answer. -/
theorem concludes_of_waiting (consistent : gateway.clients.Consistent)
    (transport : Transport World) (connection : Connection) (world : World)
    {pending : PendingBinds} {bind : PendingBind}
    (begun : gateway.pending.beginConnect token now = (.admitted (some bind), pending)) :
    gateway.Concludes transport token connection now world := by
  have waited : (gateway.pending.beginConnect token now).1 = .admitted (some bind) := by rw [begun]
  obtain ⟨left, sameHooks, registered, concluded⟩ :=
    connect_registers consistent transport connection world begun
  have takesUp := takesUp_register consistent waited registered
  rw [← ConnectAct.performAll_close_toList transport gateway.hooks] at concluded
  generalize (gateway.clients.register bind.client connection bind.option
    gateway.clock.now).evicted.toList = leaves at takesUp concluded
  have announced := left.announce_acts transport connection bind
    (ConnectAct.performAll transport gateway.hooks (leaves.map .close) world)
  rw [sameHooks] at announced
  unfold Concludes
  rw [concluded]
  cases installed : gateway.hooks.connect with
  | none =>
    rw [installed] at announced
    dsimp only at announced ⊢
    rw [announced]
    exact ⟨leaves.map .close, rfl, bind, leaves, takesUp, rfl, rfl⟩
  | some hook =>
    rw [installed] at announced
    dsimp only at announced ⊢
    cases answered : (hook bind.client bind.option (ConnectAct.performAll transport gateway.hooks
        (leaves.map .close) world)).1 with
    | ok =>
      rw [answered] at announced
      dsimp only at announced
      rw [announced]
      exact ⟨leaves.map .close ++ [.tell bind], (ConnectAct.performAll_append ..).symm, bind,
        leaves, takesUp, rfl, rfl, answered⟩
    | error reason =>
      rw [answered] at announced
      dsimp only at announced
      rw [announced]
      exact ⟨leaves.map .close ++ [.tell bind, .close connection],
        (ConnectAct.performAll_append ..).symm, bind, leaves, hook, takesUp, rfl, rfl, answered⟩

theorem concludes (consistent : gateway.clients.Consistent) (transport : Transport World)
    (token : CorrelationToken) (connection : Connection) (now : Nat) (world : World) :
    gateway.Concludes transport token connection now world := by
  cases begun : gateway.pending.beginConnect token now with
  | mk admission pending =>
    cases admission with
    | duplicate =>
      have isDuplicate : (gateway.pending.beginConnect token now).1 = .duplicate := by rw [begun]
      have kept := PendingBinds.binds_beginConnect_duplicate isDuplicate
      rw [begun] at kept
      simp only [Concludes, connect, begun]
      exact ⟨[], rfl, trivial, rfl, trivial, kept⟩
    | admitted bind? =>
      cases bind? with
      | none =>
        simp only [Concludes, connect, begun]
        exact ⟨[.close connection], rfl, trivial, rfl, trivial⟩
      | some bind => exact concludes_of_waiting consistent transport connection world begun

end Gateway

/-! ### Decisions in force -/

/-- A decision is in force in a registry: its client is on the connection with the option that was
decided, and the last one to become idle. -/
structure ClientRegistry.InForce (registry : ClientRegistry) (connection : Connection)
    (bind : PendingBind) : Prop where
  lookup : registry.lookup connection.id = some bind.client
  option : registry.option bind.client = .ok bind.option
  idle : registry.sortedIdle.getLast? = some bind.client

private theorem ClientRegistry.inForce_register {registry : ClientRegistry}
    (consistent : registry.Consistent) {connection : Connection} {bind : PendingBind}
    (elsewhere : ¬ registry.IsOn bind.client connection.id) (now : Int64) :
    (registry.register bind.client connection bind.option now).registry.InForce connection
      bind := by
  have ⟨_, _, moved⟩ := register_moved consistent elsewhere bind.option now
  have consistentAfter := consistent.register bind.client connection bind.option now
  refine ⟨?_, ?_, ?_⟩
  · rw [ClientRegistry.lookup, moved.owners, if_pos rfl]
  · rw [ClientRegistry.option, get?, moved.clients, if_pos rfl]
  · rw [sortedIdle, idleEntries_of_mark consistent.numbered consistentAfter.numbered
      (fun other => registry.IsOn other connection.id) moved.idleMarks, IdleLine.rejoin]
    simp

namespace Deployment

variable {World : Type}

/-- However a gateway was used, a connect event comes to one of these outcomes: it is a repetition
and changes nothing; no bind waits, and its connection is closed; or the client of the bind is
registered and the hook told of it, and the connection is closed if the hook refuses. A registration
never fails, only the connection that the client leaves is closed besides, and all other clients
stay as they are but the one that was on the connection before. -/
theorem connect_concludes (deployment : Deployment World) (usages : List (Usage World))
    (token : CorrelationToken) (connection : Connection) (now : Nat) :
    (deployment.used usages).gateway.Concludes deployment.transport token connection now
      (deployment.used usages).world :=
  Gateway.concludes (deployment.consistent_used usages) deployment.transport token connection now _

/-- A connect event that is accepted puts the decision of the authentication in force that returned
its token, and tells the hook of the same. Only if the client was on the connection already, the
registry stays as it was. -/
theorem connect_in_force (deployment : Deployment World)
    (distinct : Function.Injective deployment.tokens) (usages : List (Usage World))
    {token : CorrelationToken} {bind : PendingBind}
    (granted : deployment.Granted token bind usages) (connection : Connection) (now : Nat)
    {id : ClientId}
    (accepted : ((deployment.used usages).gateway.connect deployment.transport token connection now
      (deployment.used usages).world).1 = .ok id) :
    let service := deployment.used usages
    let outcome := service.gateway.connect deployment.transport token connection now service.world
    id = bind.client ∧ outcome.2.1.clients.lookup connection.id = some id ∧
      (∃ leaves : List Connection, outcome.2.2 = ConnectAct.performAll deployment.transport
        service.gateway.hooks (leaves.map .close ++ [.tell bind]) service.world) ∧
      if service.gateway.clients.IsOn id connection.id then
        outcome.2.1.clients = service.gateway.clients
      else outcome.2.1.clients.InForce connection bind := by
  intro service outcome
  have consistent : service.gateway.clients.Consistent := deployment.consistent_used usages
  obtain ⟨acts, performed, concluded⟩ :=
    Gateway.concludes consistent deployment.transport token connection now service.world
  rw [accepted] at concluded
  obtain ⟨found, leaves, takesUp, rfl, told⟩ := concluded
  -- the bind that waited is the one that was decided under this token
  obtain rfl : found = bind := by
    obtain ⟨held, waits, rfl⟩ :=
      ExpiringMap.take_eq_some (PendingBinds.beginConnect_takes takesUp.waited)
    exact (granted_of_waiting waits).bind_unique distinct granted
  have consistentAfter : outcome.2.1.clients.Consistent := by
    rw [takesUp.registered]
    exact consistent.register _ _ _ _
  refine ⟨rfl, consistentAfter.owned.mpr takesUp.online, ⟨leaves, ?_⟩, ?_⟩
  · refine performed.trans ?_
    cases installed : service.gateway.hooks.connect with
    | none =>
      rw [installed] at told
      rw [told, ConnectAct.performAll_tell_nobody _ installed]
    | some hook =>
      rw [installed] at told
      rw [told.1]
  · split
    · next same =>
      refine takesUp.registered.trans ?_
      rw [ClientRegistry.register_same same]
    · next elsewhere =>
      have inForce := ClientRegistry.inForce_register consistent elsewhere service.gateway.clock.now
      rw [← takesUp.registered] at inForce
      exact inForce

private theorem rehearsal_distinct : Function.Injective rehearsal.tokens := by
  intro left right same
  exact Nat.repr_injective (CorrelationToken.mk.inj same)

/-- A client is online with one option, and is let in once more with another one. -/
def renewal : List (Usage Recording) :=
  [.call (.setHooks
      { authenticate := some fun text world => (.ok ("u1", text), world)
        connect := some fun id option world => (.ok (), world.note (.connected id option)) }),
    .call (.authenticate (Handshake.withQuery {} "token" "blue") 0),
    .call (.connect ⟨"0"⟩ ⟨⟨"c1"⟩, "first"⟩ 1),
    .call (.authenticate (Handshake.withQuery {} "token" "green") 2)]

private theorem renewal_granted : rehearsal.Granted ⟨"1"⟩ ⟨⟨"u1"⟩, "green"⟩ renewal := by
  have waits : (rehearsal.used renewal).gateway.pending.binds.entries[(⟨"1"⟩ : CorrelationToken)]? =
      some ⟨⟨⟨"u1"⟩, "green"⟩, 30000000002⟩ := by decide +kernel
  exact granted_of_waiting waits

/-- The new decision is in force once the client has come on another connection. -/
theorem renewal_in_force :
    let service := rehearsal.used renewal
    let outcome := service.gateway.connect rehearsal.transport ⟨"1"⟩ ⟨⟨"c2"⟩, "second"⟩ 3
      service.world
    Function.Injective rehearsal.tokens ∧ rehearsal.Granted ⟨"1"⟩ ⟨⟨"u1"⟩, "green"⟩ renewal ∧
      outcome.1 = .ok ⟨"u1"⟩ ∧
      outcome.2.1.clients.InForce ⟨⟨"c2"⟩, "second"⟩ ⟨⟨"u1"⟩, "green"⟩ := by
  intro service outcome
  have accepted : outcome.1 = .ok ⟨"u1"⟩ := by decide +kernel
  obtain ⟨-, -, -, inForce⟩ :=
    connect_in_force rehearsal rehearsal_distinct renewal renewal_granted _ 3 accepted
  rw [if_neg (by decide +kernel)] at inForce
  exact ⟨rehearsal_distinct, renewal_granted, accepted, inForce⟩

/-- On its old connection, the client keeps its old option. -/
theorem renewal_void :
    let service := rehearsal.used renewal
    let outcome := service.gateway.connect rehearsal.transport ⟨"1"⟩ ⟨⟨"c1"⟩, "first"⟩ 3
      service.world
    Function.Injective rehearsal.tokens ∧ rehearsal.Granted ⟨"1"⟩ ⟨⟨"u1"⟩, "green"⟩ renewal ∧
      outcome.1 = .ok ⟨"u1"⟩ ∧ outcome.2.1.clients.option ⟨"u1"⟩ = .ok "blue" ∧
      ¬ outcome.2.1.clients.InForce ⟨⟨"c1"⟩, "first"⟩ ⟨⟨"u1"⟩, "green"⟩ := by
  intro service outcome
  have kept : outcome.2.1.clients.option ⟨"u1"⟩ = .ok "blue" := by decide +kernel
  refine ⟨rehearsal_distinct, renewal_granted, by decide +kernel, kept, ?_⟩
  intro inForce
  have renewed : outcome.2.1.clients.option ⟨"u1"⟩ = .ok "green" := inForce.option
  rw [kept] at renewed
  exact absurd (Except.ok.inj renewed) (by decide)

end Deployment

end SocketGateway
