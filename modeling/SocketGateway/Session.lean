import SocketGateway.Server

/-!
Contract: the course of a session, from its handshake to its end.

Owns:
- the stages of a session, and the one step that leads out of each;
- the status with which a handshake is answered.

One step is one atomic action on the server, so sessions that run side by side are sequences of
steps in any order.

Does not own: what happens while a session is online.
-/

namespace SocketGateway

/-- How far a session has come. -/
inductive Stage where
  /-- Its handshake came in. -/
  | requested
  /-- No slot was free. -/
  | turnedAway
  /-- It holds a slot. -/
  | reserved
  /-- It holds a slot, and its authentication was denied. -/
  | denied
  /-- The slot of the denied handshake was given back. -/
  | unauthorized
  /-- It holds a slot and a token. -/
  | authenticated (token : CorrelationToken)
  /-- Its socket is open, and the connect event is next. -/
  | opened (token : CorrelationToken)
  /-- Its connect event failed, and the socket is to be closed. -/
  | refused
  /-- Its client came online, and frames are read and written. -/
  | online
  /-- Frames are neither read nor written any more, and the disconnect event is next. -/
  | ending
  /-- The disconnect event was processed, and the socket is to be released. -/
  | departed
  /-- Nothing is left to do. -/
  | over
deriving DecidableEq, Repr

/-- What is particular to a session: its handshake, and the token and the connection id that were
drawn for it. -/
structure Session where
  request : Handshake
  token : CorrelationToken
  connection : ConnectionId

namespace Session

variable {App : Type}

/-- Takes the step that leads out of a stage. A session online is left when its socket is gone or
closed. -/
def step (session : Session) (now : Nat) (stage : Stage) (server : Server App) :
    Stage × Server App :=
  match stage with
  | .requested =>
    match server.reserve? with
    | none => (.turnedAway, server)
    | some holding => (.reserved, holding)
  | .reserved =>
    match server.authenticate session.request session.token now with
    | (.error _, after) => (.denied, after)
    | (.ok token, after) => (.authenticated token, after)
  | .denied => (.unauthorized, server.dropReservation)
  | .authenticated token => (.opened token, server.openSocket session.connection)
  | .opened token =>
    match server.connect token session.connection now with
    | (.error _, after) => (.refused, after)
    | (.ok _, after) => (.online, after)
  | .refused => (.ending, server.close session.connection)
  | .online => (.ending, server)
  | .ending => (.departed, (server.disconnect session.connection).2)
  | .departed => (.over, server.release session.connection)
  | .turnedAway => (.turnedAway, server)
  | .unauthorized => (.unauthorized, server)
  | .over => (.over, server)

def steps (session : Session) (now : Nat) : Nat → Stage → Server App → Stage × Server App
  | 0, stage, server => (stage, server)
  | count + 1, stage, server =>
    let (next, after) := session.step now stage server
    session.steps now count next after

/-- Answers a handshake: the session is turned away, unauthorized, or authenticated. -/
def handshake (session : Session) (now : Nat) (server : Server App) : Stage × Server App :=
  match session.steps now 2 .requested server with
  | (.denied, after) => session.step now .denied after
  | answered => answered

/-- Opens the socket of an authenticated session and processes its connect event. A session that is
refused is closed. -/
def enter (session : Session) (now : Nat) (token : CorrelationToken) (server : Server App) :
    Stage × Server App :=
  match session.steps now 2 (.authenticated token) server with
  | (.refused, after) => session.step now .refused after
  | entered => entered

/-- Ends a session: the disconnect event is processed and the socket released. -/
def finish (session : Session) (now : Nat) (server : Server App) : Server App :=
  (session.steps now 2 .ending server).2

/-- The status with which a handshake is answered. -/
def status : Stage → Nat
  | .turnedAway => 503
  | .unauthorized => 401
  | _ => 101

end Session

end SocketGateway
