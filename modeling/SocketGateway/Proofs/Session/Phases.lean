import SocketGateway.Proofs.Gateway.Steps
import SocketGateway.Session

/-!
Contract: sessions as rows of actions that are atomic by themselves.

Owns:
- the phases of a session, and the one action that leads out of each;
- that a step of a session is a row of these actions.

Between two actions of a session, other sessions may act on the same server.

Does not own: what the actions keep.
-/

namespace SocketGateway

/-- How far a session has come. -/
inductive Phase where
  | requested
  | turnedAway
  /-- It holds a slot. -/
  | vetting (stage : Vetting)
  | unauthorized
  /-- Its peer gave up before the socket was open. -/
  | abandoned
  /-- Its socket is open. Once the connect event is settled with a client, frames are read. -/
  | arriving (stage : Arrival)
  /-- The disconnect event, and what the connect event had answered. -/
  | leaving (answer : Except ConnectError ClientId) (stage : Departure)
  | gone

namespace Session

variable {App : Type}

/-- Takes the action that leads out of a phase. A session that is online is left when its socket is
gone or closed. -/
def advance (session : Session) (now : Nat) : Phase × Server App → Phase × Server App
  | (.requested, server) =>
    match server.reserve? with
    | none => (.turnedAway, server)
    | some holding => (.vetting .due, holding)
  | (.vetting (.settled (.error _)), server) => (.unauthorized, server.dropReservation)
  | (.vetting (.settled (.ok token)), server) =>
    (.arriving (.due token), server.openSocket session.connection)
  | (.vetting stage, server) =>
    let next := Gateway.vet session.request session.token now (stage, server.gateway, server.world)
    (.vetting next.1, Server.update next.2.1 next.2.2)
  | (.arriving (.settled (.error cause)), server) =>
    (.leaving (.error cause) .due, server.close session.connection)
  | (.arriving (.settled (.ok client)), server) => (.leaving (.ok client) .due, server)
  | (.arriving stage, server) =>
    let next := Gateway.arrive (Hub.transport App) (Hub.connection session.connection) now
      (stage, server.gateway, server.world)
    (.arriving next.1, Server.update next.2.1 next.2.2)
  | (.leaving _ (.settled _), server) => (.gone, server.release session.connection)
  | (.leaving answer stage, server) =>
    let next := Gateway.depart (Hub.transport App) (Hub.connection session.connection)
      (stage, server.gateway, server.world)
    (.leaving answer next.1, Server.update next.2.1 next.2.2)
  | (.turnedAway, server) => (.turnedAway, server)
  | (.unauthorized, server) => (.unauthorized, server)
  | (.abandoned, server) => (.abandoned, server)
  | (.gone, server) => (.gone, server)

end Session

/-! ### Steps as rows of actions -/

/-- The stage at which a session is in a phase, unless it is in the middle of a step. -/
def Phase.stage? : Phase → Option Stage
  | .requested => some .requested
  | .turnedAway => some .turnedAway
  | .vetting .due => some .reserved
  | .vetting (.decided _) => none
  | .vetting (.settled (.error _)) => some .denied
  | .vetting (.settled (.ok token)) => some (.authenticated token)
  | .unauthorized => some .unauthorized
  | .abandoned => none
  | .arriving (.due token) => some (.opened token)
  | .arriving (.settled (.error _)) => some .refused
  | .arriving (.settled (.ok _)) => some .online
  | .arriving _ => none
  | .leaving _ .due => some .ending
  | .leaving _ (.settled _) => some .departed
  | .leaving _ _ => none
  | .gone => some .over

def Vetting.isSettled : Vetting → Bool
  | .settled _ => true
  | _ => false

def Arrival.isSettled : Arrival → Bool
  | .settled _ => true
  | _ => false

def Departure.isSettled : Departure → Bool
  | .settled _ => true
  | _ => false

/-- A machine that comes to rest does so as well inside another one that makes its moves until
then. -/
theorem iterate_within {Inner Outer : Type} (inner : Inner → Inner) (outer : Outer → Outer)
    (embed : Inner → Outer) (rests : Inner → Bool)
    (fixed : ∀ state, rests state = true → inner state = state)
    (moves : ∀ state, rests state = false → outer (embed state) = embed (inner state))
    (count : Nat) (state : Inner) (rest : rests (inner^[count] state) = true) :
    ∃ taken, outer^[taken] (embed state) = embed (inner^[count] state) := by
  -- on the moves of the inner machine, of which those made at rest are not made outside
  induction count generalizing state with
  | zero => exact ⟨0, rfl⟩
  | succ count inductionHypothesis =>
    rw [Function.iterate_succ_apply] at rest ⊢
    obtain ⟨taken, reached⟩ := inductionHypothesis (inner state) rest
    cases resting : rests state with
    | true =>
      rw [fixed state resting] at reached ⊢
      exact ⟨taken, reached⟩
    | false =>
      refine ⟨taken + 1, ?_⟩
      rw [Function.iterate_succ_apply, moves state resting]
      exact reached

namespace Session

variable {App : Type} (session : Session) (now : Nat) (server : Server App)

/-- From the start of an authentication, actions lead to its answer. -/
theorem advance_authenticate :
    ∃ taken, (session.advance now)^[taken] (.vetting .due, server) =
      (.vetting (.settled (server.authenticate session.request session.token now).1),
        (server.authenticate session.request session.token now).2) := by
  have whole := server.gateway.vet_all now server.world session.request session.token
  obtain ⟨taken, reached⟩ := iterate_within
    (Gateway.vet session.request session.token now) (session.advance now)
    (fun state => (.vetting state.1, Server.update state.2.1 state.2.2))
    (fun state => state.1.isSettled)
    (by
      rintro ⟨stage, gateway, world⟩ settled
      cases stage <;> first | rfl | cases settled)
    (by
      rintro ⟨stage, gateway, world⟩ unsettled
      cases stage <;> first | rfl | cases unsettled)
    2 (.due, server.gateway, server.world) (by rw [whole]; rfl)
  rw [whole] at reached
  exact ⟨taken, reached⟩

private theorem advance_connect (token : CorrelationToken) :
    ∃ taken, (session.advance now)^[taken] (.arriving (.due token), server) =
      (.arriving (.settled (server.connect token session.connection now).1),
        (server.connect token session.connection now).2) := by
  have whole := server.gateway.arrive_all (Hub.transport App)
    (Hub.connection session.connection) now server.world token
  obtain ⟨taken, reached⟩ := iterate_within
    (Gateway.arrive (Hub.transport App) (Hub.connection session.connection) now)
    (session.advance now)
    (fun state => (.arriving state.1, Server.update state.2.1 state.2.2))
    (fun state => state.1.isSettled)
    (by
      rintro ⟨stage, gateway, world⟩ settled
      cases stage <;> first | rfl | cases settled)
    (by
      rintro ⟨stage, gateway, world⟩ unsettled
      cases stage <;> first | rfl | cases unsettled)
    4 (.due token, server.gateway, server.world) (by rw [whole]; rfl)
  rw [whole] at reached
  exact ⟨taken, reached⟩

private theorem advance_disconnect (answer : Except ConnectError ClientId) :
    ∃ taken, (session.advance now)^[taken] (.leaving answer .due, server) =
      (.leaving answer (.settled (server.disconnect session.connection).1),
        (server.disconnect session.connection).2) := by
  have whole := server.gateway.depart_all (Hub.transport App)
    (Hub.connection session.connection) server.world
  obtain ⟨taken, reached⟩ := iterate_within
    (Gateway.depart (Hub.transport App) (Hub.connection session.connection))
    (session.advance now)
    (fun state => (.leaving answer state.1, Server.update state.2.1 state.2.2))
    (fun state => state.1.isSettled)
    (by
      rintro ⟨stage, gateway, world⟩ settled
      cases stage <;> first | rfl | cases settled)
    (by
      rintro ⟨stage, gateway, world⟩ unsettled
      cases stage <;> first | rfl | cases unsettled)
    3 (.due, server.gateway, server.world) (by rw [whole]; rfl)
  rw [whole] at reached
  exact ⟨taken, reached⟩

/-- A step of a session is a row of actions, from a phase of the stage to one of the next stage. -/
theorem step_actions {phase : Phase} {stage : Stage} (isAt : phase.stage? = some stage) :
    ∃ taken next, (session.advance now)^[taken] (phase, server) =
        (next, (session.step now stage server).2) ∧
      next.stage? = some (session.step now stage server).1 := by
  cases phase with
  | requested =>
    cases isAt
    refine ⟨1, ?_⟩
    simp only [Function.iterate_one, advance, step]
    cases server.reserve? <;> exact ⟨_, rfl, rfl⟩
  | turnedAway =>
    cases isAt
    exact ⟨0, _, rfl, rfl⟩
  | vetting vetting =>
    cases vetting with
    | due =>
      cases isAt
      obtain ⟨taken, reached⟩ := session.advance_authenticate now server
      rw [step]
      generalize server.authenticate session.request session.token now = outcome at reached ⊢
      obtain ⟨answer, after⟩ := outcome
      cases answer <;> exact ⟨taken, _, reached, rfl⟩
    | decided bind => cases isAt
    | settled answer => cases answer <;> cases isAt <;> exact ⟨1, _, rfl, rfl⟩
  | unauthorized =>
    cases isAt
    exact ⟨0, _, rfl, rfl⟩
  | abandoned => cases isAt
  | arriving arrival =>
    cases arrival with
    | due token =>
      cases isAt
      obtain ⟨taken, reached⟩ := session.advance_connect now server token
      rw [step]
      generalize server.connect token session.connection now = outcome at reached ⊢
      obtain ⟨answer, after⟩ := outcome
      cases answer <;> exact ⟨taken, _, reached, rfl⟩
    | admitted bind => cases isAt
    | registered bind => cases isAt
    | spurned cause => cases isAt
    | settled answer => cases answer <;> cases isAt <;> exact ⟨1, _, rfl, rfl⟩
  | leaving answer departure =>
    cases departure with
    | due =>
      cases isAt
      obtain ⟨taken, reached⟩ := session.advance_disconnect now server answer
      exact ⟨taken, _, reached, rfl⟩
    | clearing id option => cases isAt
    | telling id option => cases isAt
    | settled departed =>
      cases isAt
      exact ⟨1, _, rfl, rfl⟩
  | gone =>
    cases isAt
    exact ⟨0, _, rfl, rfl⟩

end Session

end SocketGateway
