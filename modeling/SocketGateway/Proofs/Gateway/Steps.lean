import Mathlib.Logic.Function.Iterate
import SocketGateway.Gateway

/-!
Contract: the events of a connection as rows of steps that are atomic by themselves.

Owns:
- how far an authentication, a connect event or a disconnect event has come, and the one step that
  leads on from there;
- that these steps, taken in a row, make up the whole event.

A step reads and writes one of the stores of the gateway, or calls one hook or one connection.
Between two steps of an event, anything may happen to the gateway and to the world.

Does not own: what happens between two steps.
-/

namespace SocketGateway

/-- How far an authentication has come. -/
inductive Vetting where
  | due
  /-- The handshake was let in, and its bind is to be kept. -/
  | decided (bind : PendingBind)
  | settled (answer : Except GatewayError CorrelationToken)

/-- How far a connect event has come. -/
inductive Arrival where
  | due (token : CorrelationToken)
  | admitted (bind : PendingBind)
  | registered (bind : PendingBind)
  /-- It failed, and its connection is to be closed. -/
  | spurned (cause : ConnectError)
  | settled (answer : Except ConnectError ClientId)

/-- Whether the client was put into the registry, or never will be. -/
def Arrival.isDecided : Arrival → Bool
  | .due _ => false
  | .admitted _ => false
  | _ => true

/-- How far a disconnect event has come. -/
inductive Departure where
  | due
  /-- The client left the registry, and is to leave groups and rooms. -/
  | clearing (id : ClientId) (option : String)
  | telling (id : ClientId) (option : String)
  | settled (answer : Option (ClientId × String))

namespace Gateway

variable {World : Type}

/-- Takes the next step of an authentication. -/
def vet (request : Handshake) (fresh : CorrelationToken) (now : Nat) :
    Vetting × Gateway World × World → Vetting × Gateway World × World
  | (.due, gateway, world) =>
    match Authentication.extractToken gateway.config.authPrefix request with
    | .error cause => (.settled (.error cause), gateway, world)
    | .ok token =>
      match gateway.decide token world with
      | (.error cause, after) => (.settled (.error cause), gateway, after)
      | (.ok bind, after) => (.decided bind, gateway, after)
  | (.decided bind, gateway, world) =>
    (.settled (.ok fresh), { gateway with pending := gateway.pending.stash fresh bind now }, world)
  | (.settled answer, gateway, world) => (.settled answer, gateway, world)

def arrive (transport : Transport World) (connection : Connection) (now : Nat) :
    Arrival × Gateway World × World → Arrival × Gateway World × World
  | (.due token, gateway, world) =>
    let (admission, pending) := gateway.pending.beginConnect token now
    let admitting := { gateway with pending := pending }
    match admission with
    | .duplicate => (.settled (.error .duplicateCallback), admitting, world)
    | .admitted none => (.spurned .noPendingBind, admitting, world)
    | .admitted (some bind) => (.admitted bind, admitting, world)
  | (.admitted bind, gateway, world) =>
    match gateway.register transport bind.client connection bind.option world with
    | (.error cause, registering, after) => (.spurned (.registration cause), registering, after)
    | (.ok (), registering, after) => (.registered bind, registering, after)
  | (.registered bind, gateway, world) =>
    match gateway.hooks.connect with
    | none => (.settled (.ok bind.client), gateway, world)
    | some hook =>
      match hook bind.client bind.option world with
      | (.ok (), after) => (.settled (.ok bind.client), gateway, after)
      | (.error reason, after) => (.spurned (.rejected reason), gateway, after)
  | (.spurned cause, gateway, world) =>
    (.settled (.error cause), gateway, transport.disconnect connection world)
  | (.settled answer, gateway, world) => (.settled answer, gateway, world)

def depart (transport : Transport World) (connection : Connection) :
    Departure × Gateway World × World → Departure × Gateway World × World
  | (.due, gateway, world) =>
    match gateway.deregister transport connection world with
    | (none, left, after) => (.settled none, left, after)
    | (some (id, option), left, after) => (.clearing id option, left, after)
  | (.clearing id option, gateway, world) =>
    (.telling id option, { gateway with rooms := gateway.rooms.removeClient id }, world)
  | (.telling id option, gateway, world) =>
    match gateway.hooks.disconnect with
    | none => (.settled (some (id, option)), gateway, world)
    | some hook => (.settled (some (id, option)), gateway, hook id option world)
  | (.settled answer, gateway, world) => (.settled answer, gateway, world)

/-- A connect event that is decided stays so. -/
theorem isDecided_arrive (transport : Transport World) (connection : Connection) (now : Nat)
    (gateway : Gateway World) (world : World) {stage : Arrival} (decided : stage.isDecided = true) :
    (arrive transport connection now (stage, gateway, world)).1.isDecided = true := by
  cases stage with
  | due | admitted => cases decided
  | registered bind =>
    simp only [arrive]
    cases gateway.hooks.connect with
    | none => rfl
    | some hook =>
      dsimp only
      obtain ⟨answer, after⟩ := hook bind.client bind.option world
      cases answer <;> rfl
  | spurned | settled => rfl

/-! ### Whole events -/

section Whole

variable (gateway : Gateway World) (transport : Transport World) (connection : Connection)
  (now : Nat) (world : World)

/-- An authentication is two steps at most, and stays settled after that. -/
theorem vet_all (request : Handshake) (fresh : CorrelationToken) :
    (vet request fresh now)^[2] (.due, gateway, world) =
      (.settled (gateway.authenticate request fresh now world).1,
        (gateway.authenticate request fresh now world).2) := by
  simp only [Function.iterate_succ, Function.iterate_zero, Function.comp_apply, id_eq, vet,
    authenticate]
  cases Authentication.extractToken gateway.config.authPrefix request with
  | error cause => rfl
  | ok token =>
    dsimp only
    obtain ⟨decision, after⟩ := gateway.decide token world
    cases decision <;> rfl

theorem arrive_all (token : CorrelationToken) :
    (arrive transport connection now)^[4] (.due token, gateway, world) =
      (.settled (gateway.connect transport token connection now world).1,
        (gateway.connect transport token connection now world).2) := by
  simp only [Function.iterate_succ, Function.iterate_zero, Function.comp_apply, id_eq, arrive,
    connect, announce]
  obtain ⟨admission, pending⟩ := gateway.pending.beginConnect token now
  cases admission with
  | duplicate => rfl
  | admitted taken =>
    cases taken with
    | none => rfl
    | some bind =>
      simp only [register]
      cases (gateway.clients.register bind.client connection bind.option
        gateway.clock.now).result with
      | error cause => rfl
      | ok =>
        dsimp only
        cases gateway.hooks.connect with
        | none => rfl
        | some hook =>
          dsimp only
          obtain ⟨answer, told⟩ := hook bind.client bind.option
            (transport.disconnectAny (gateway.clients.register bind.client connection bind.option
              gateway.clock.now).evicted world)
          cases answer <;> rfl

theorem depart_all :
    (depart transport connection)^[3] (.due, gateway, world) =
      (.settled (gateway.disconnect transport connection world).1,
        (gateway.disconnect transport connection world).2) := by
  simp only [Function.iterate_succ, Function.iterate_zero, Function.comp_apply, id_eq, depart,
    disconnect, deregister]
  cases (gateway.clients.deregister connection).departed with
  | none => rfl
  | some departed =>
    obtain ⟨id, option⟩ := departed
    dsimp only
    cases gateway.hooks.disconnect <;> rfl

end Whole

end Gateway

end SocketGateway
