import SocketGateway.Proofs.Gateway.Outcomes

/-!
Contract: a gateway in use, call after call.

Owns:
- the calls on a gateway, with the tokens it draws and the world on which it acts;
- that the registry of a gateway in use is always consistent;
- where a client of the registry and a waiting bind come from.

Hooks, handlers and transport may answer anything, and the times of the calls may run in any order.

Does not own: what a client has to show to be let in.
-/

namespace SocketGateway

/-- A gateway in use: the world around it, and how many tokens it has handed out. -/
structure Service (World : Type) where
  gateway : Gateway World
  world : World
  drawn : Nat := 0

/-- A call on a gateway in use. -/
inductive ServiceCall (World : Type) where
  | authenticate (request : Handshake) (now : Nat)
  | connect (token : CorrelationToken) (connection : Connection) (now : Nat)
  | disconnect (connection : Connection)
  | dispatch (connection : Connection) (event : String) (data : Json)
  | signal (id : ClientId) (event : String) (data : Json)
  | setHooks (hooks : Hooks World)
  | setAdapter (adaptor : Adaptor World)

/-- What a gateway is put to use with. -/
structure Deployment (World : Type) where
  transport : Transport World
  /-- The tokens in the order in which they are drawn. -/
  tokens : Nat → CorrelationToken
  config : Config
  clock : Clock
  world : World

namespace Deployment

variable {World : Type}

/-- The answer to a handshake that comes next. -/
def authenticate (deployment : Deployment World) (service : Service World) (request : Handshake)
    (now : Nat) : Except GatewayError CorrelationToken × Gateway World × World :=
  service.gateway.authenticate request (deployment.tokens service.drawn) now service.world

/-- A call on a gateway in use. A token counts as drawn when it is handed out. -/
def perform (deployment : Deployment World) (service : Service World) :
    ServiceCall World → Service World
  | .authenticate request now =>
    match deployment.authenticate service request now with
    | (.ok _, gateway, world) => ⟨gateway, world, service.drawn + 1⟩
    | (.error _, gateway, world) => ⟨gateway, world, service.drawn⟩
  | .connect token connection now =>
    let outcome :=
      service.gateway.connect deployment.transport token connection now service.world
    { service with gateway := outcome.2.1, world := outcome.2.2 }
  | .disconnect connection =>
    let outcome := service.gateway.disconnect deployment.transport connection service.world
    { service with gateway := outcome.2.1, world := outcome.2.2 }
  | .dispatch connection event data =>
    { service with world := (service.gateway.dispatch connection event data service.world).2 }
  | .signal id event data =>
    { service with
      world := (service.gateway.signal deployment.transport id event data service.world).2 }
  | .setHooks hooks => { service with gateway := service.gateway.setHooks hooks }
  | .setAdapter adaptor => { service with gateway := service.gateway.setAdapter adaptor }

/-- The new gateway. -/
def start (deployment : Deployment World) : Service World where
  gateway := .new deployment.config deployment.clock
  world := deployment.world

/-- The gateway after these calls. -/
def after (deployment : Deployment World) (calls : List (ServiceCall World)) : Service World :=
  calls.foldl deployment.perform deployment.start

variable {deployment : Deployment World} {service : Service World}

theorem after_concat (calls : List (ServiceCall World)) (call : ServiceCall World) :
    deployment.after (calls ++ [call]) = deployment.perform (deployment.after calls) call := by
  simp [after]

/-! ### One call -/

/-- A handshake that is let in costs a token and makes a waiting bind; any other one does nothing to
the gateway. -/
theorem perform_authenticate (deployment : Deployment World) (service : Service World)
    (request : Handshake) (now : Nat) :
    (∃ cause, (deployment.authenticate service request now).1 = .error cause ∧
      (deployment.perform service (.authenticate request now)).gateway = service.gateway ∧
      (deployment.perform service (.authenticate request now)).drawn = service.drawn) ∨
    ∃ bind, service.gateway.Decides request service.world bind ∧
      (deployment.authenticate service request now).1 = .ok (deployment.tokens service.drawn) ∧
      (deployment.perform service (.authenticate request now)).gateway =
        { service.gateway with
          pending := service.gateway.pending.stash (deployment.tokens service.drawn) bind now } ∧
      (deployment.perform service (.authenticate request now)).drawn = service.drawn + 1 := by
  have outcome := service.gateway.authenticate_outcome request (deployment.tokens service.drawn) now
    service.world
  rw [← authenticate] at outcome
  rw [perform]
  cases answered : deployment.authenticate service request now with
  | mk answer rest =>
    obtain ⟨left, world⟩ := rest
    rw [answered] at outcome
    rcases outcome with ⟨cause, denied, same⟩ | ⟨bind, decides, returned, stashed⟩
    · dsimp only at denied same
      subst denied
      exact Or.inl ⟨cause, rfl, same, rfl⟩
    · dsimp only at returned stashed
      subst returned
      exact Or.inr ⟨bind, decides, rfl, stashed, rfl⟩

theorem clients_authenticate (request : Handshake) (now : Nat) :
    (deployment.perform service (.authenticate request now)).gateway.clients =
      service.gateway.clients := by
  rcases deployment.perform_authenticate service request now with
    ⟨cause, -, same, -⟩ | ⟨bind, -, -, stashed, -⟩
  · rw [same]
  · rw [stashed]

theorem pending_connect (token : CorrelationToken) (connection : Connection) (now : Nat) :
    (deployment.perform service (.connect token connection now)).gateway.pending =
      (service.gateway.pending.beginConnect token now).2 := by
  rw [perform]
  rcases service.gateway.connect_outcome deployment.transport token connection now
    service.world with ⟨bind, -, -, left⟩ | ⟨-, left⟩
  · rw [left]
  · rw [left]

theorem pending_disconnect (connection : Connection) :
    (deployment.perform service (.disconnect connection)).gateway.pending =
      service.gateway.pending :=
  (Gateway.disconnect_clients service.gateway deployment.transport connection service.world).2

theorem consistent_perform (consistent : service.gateway.clients.Consistent)
    (call : ServiceCall World) :
    (deployment.perform service call).gateway.clients.Consistent := by
  cases call with
  | authenticate request now =>
    rw [clients_authenticate]
    exact consistent
  | connect token connection now =>
    rw [perform]
    rcases service.gateway.connect_outcome deployment.transport token connection now
      service.world with ⟨bind, -, -, left⟩ | ⟨-, left⟩
    · rw [left]
      exact consistent.register _ _ _ _
    · rw [left]
      exact consistent
  | disconnect connection =>
    rw [perform]
    dsimp only
    rw [(Gateway.disconnect_clients service.gateway deployment.transport connection _).1]
    exact consistent.deregister connection
  | dispatch connection event data => exact consistent
  | signal id event data => exact consistent
  | setHooks hooks => exact consistent
  | setAdapter adaptor => exact consistent

/-- A client of the registry was there before the call, or has just been registered. -/
theorem client_origin (consistent : service.gateway.clients.Consistent) {call : ServiceCall World}
    {id : ClientId} {client : Client}
    (found : (deployment.perform service call).gateway.clients.get? id = some client) :
    service.gateway.clients.get? id = some client ∨
      ∃ token connection now bind, call = .connect token connection now ∧
        (service.gateway.pending.beginConnect token now).1 = .admitted (some bind) ∧
        ¬ service.gateway.TurnsAway deployment.transport token connection now service.world ∧
        bind.client = id ∧ client = ⟨id, bind.option, some connection⟩ := by
  cases call with
  | authenticate request now =>
    rw [clients_authenticate] at found
    exact Or.inl found
  | connect token connection now =>
    rw [perform] at found
    rcases service.gateway.connect_outcome deployment.transport token connection now
      service.world with ⟨bind, admitted, registers, left⟩ | ⟨-, left⟩
    · rw [left] at found
      rcases consistent.register_origin found with ⟨rfl, isNew⟩ | old
      · exact Or.inr ⟨token, connection, now, bind, rfl, admitted, registers, rfl, isNew⟩
      · exact Or.inl old
    · rw [left] at found
      exact Or.inl found
  | disconnect connection =>
    rw [perform] at found
    dsimp only at found
    rw [(Gateway.disconnect_clients service.gateway deployment.transport connection _).1] at found
    exact Or.inl (consistent.deregister_origin found)
  | dispatch connection event data => exact Or.inl found
  | signal id event data => exact Or.inl found
  | setHooks hooks => exact Or.inl found
  | setAdapter adaptor => exact Or.inl found

/-! ### Runs -/

theorem consistent_start (deployment : Deployment World) :
    deployment.start.gateway.clients.Consistent :=
  ClientRegistry.consistent_empty

theorem consistent_after (deployment : Deployment World) (calls : List (ServiceCall World)) :
    (deployment.after calls).gateway.clients.Consistent := by
  induction calls using List.reverseRecOn with
  | nil => exact deployment.consistent_start
  | append_singleton calls call inductionHypothesis =>
    rw [after_concat]
    exact consistent_perform inductionHypothesis call

end Deployment

end SocketGateway
