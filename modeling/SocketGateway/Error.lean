/-!
Contract: why an operation of the gateway is refused.

Owns:
- the causes, by the part of the gateway that finds them;
- the wording of each cause.

Does not own: when a cause arises.
-/

namespace SocketGateway

/-- Why a transport did not do what it was asked to. -/
inductive TransportError where
  /-- The outbound queue of that connection is gone. -/
  | closed (connection : String)
  | rejected (reason : String)
deriving DecidableEq, Repr

def TransportError.message : TransportError → String
  | .closed connection => "connection '" ++ connection ++ "' is closed"
  | .rejected reason => "transport rejected the operation: " ++ reason

/-- Why the gateway refuses an operation on a client. -/
inductive GatewayError where
  | authDenied (reason : String)
  | duplicateRegistration (client : String)
  | notBound (client : String)
  | invalidArgument (reason : String)
  | targetOffline (client : String)
  | notFound (client : String)
  /-- The transport's own refusal, passed on unchanged. -/
  | transport (cause : TransportError)
deriving DecidableEq, Repr

def GatewayError.message : GatewayError → String
  | .authDenied reason => "authentication denied: " ++ reason
  | .duplicateRegistration client => "client '" ++ client ++ "' already has a live connection"
  | .notBound client => "client '" ++ client ++ "' is not bound to a connection"
  | .invalidArgument reason => "invalid argument: " ++ reason
  | .targetOffline client => "client '" ++ client ++ "' is offline"
  | .notFound client => "client '" ++ client ++ "' not found"
  | .transport cause => cause.message

/-- Why a connect event does not put a client online. -/
inductive ConnectError where
  /-- The handshake's connect event was processed before. -/
  | duplicateCallback
  /-- No authenticated handshake waits for this connection. -/
  | noPendingBind
  | registration (cause : GatewayError)
  | rejected (reason : String)
deriving DecidableEq, Repr

def ConnectError.message : ConnectError → String
  | .duplicateCallback => "duplicate connect event"
  | .noPendingBind => "no authenticated handshake for this connection"
  | .registration cause => "registration failed: " ++ cause.message
  | .rejected reason => "connect handler rejected client: " ++ reason

/-- Why no handler runs for an inbound event. -/
inductive DispatchError where
  | unknownEvent (event : String)
  | unregistered (connection : String)
deriving DecidableEq, Repr

def DispatchError.message : DispatchError → String
  | .unknownEvent event => "unknown signaling event '" ++ event ++ "'"
  | .unregistered connection => "connection '" ++ connection ++ "' is not registered"

end SocketGateway
