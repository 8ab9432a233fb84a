import SocketGateway.Client
import SocketGateway.ClientRegistry
import SocketGateway.Config
import SocketGateway.Json.Text
import SocketGateway.Journal

/-!
Contract: what the gateway reports about itself, as JSON.

Owns:
- refusals, each with the name of its cause and its wording;
- the entries of journals;
- clients and idle clients;
- truth values, texts and lists of texts.

Does not own: when something is reported.
-/

namespace SocketGateway

def TransportError.kind : TransportError → String
  | .closed _ => "Closed"
  | .rejected _ => "Rejected"

def GatewayError.kind : GatewayError → String
  | .authDenied _ => "AuthDenied"
  | .duplicateRegistration _ => "DuplicateRegistration"
  | .notBound _ => "NotBound"
  | .invalidArgument _ => "InvalidArgument"
  | .targetOffline _ => "TargetOffline"
  | .notFound _ => "NotFound"
  | .transport cause => "Transport." ++ cause.kind

def ConnectError.kind : ConnectError → String
  | .duplicateCallback => "DuplicateCallback"
  | .noPendingBind => "NoPendingBind"
  | .registration _ => "Registration"
  | .rejected _ => "Rejected"

def DispatchError.kind : DispatchError → String
  | .unknownEvent _ => "UnknownEvent"
  | .unregistered _ => "Unregistered"

def ClientIdError.kind : ClientIdError → String
  | .blank => "EmptyClientId"

namespace Report

/-- A refusal that needs no further word. -/
def bareRefusal (kind : String) : Json := .ofFields [("error", .string kind)]

/-- A refusal by the name of its cause and its wording. -/
def refusal (kind message : String) : Json :=
  .ofFields [("error", .string kind), ("message", .string message)]

def transportRefusal (cause : TransportError) : Json := refusal cause.kind cause.message

def gatewayRefusal (cause : GatewayError) : Json := refusal cause.kind cause.message

def connectRefusal (cause : ConnectError) : Json := refusal cause.kind cause.message

def dispatchRefusal (cause : DispatchError) : Json := refusal cause.kind cause.message

def clientIdRefusal (cause : ClientIdError) : Json := refusal cause.kind cause.message

/-- What is reported when there is nothing to say. -/
def done : Json := .string "ok"

/-- The report of an operation that answers nothing if it succeeds. -/
def ofUnit {ε : Type} (refusalOf : ε → Json) : Except ε Unit → Json
  | .ok () => done
  | .error cause => refusalOf cause

def ofTexts (texts : List String) : Json := .array (texts.map .string)

def ofText? : Option String → Json
  | none => .null
  | some text => .string text

def ofClientIds (ids : List ClientId) : Json := ofTexts (ids.map ClientId.text)

/-- A client that left, with its option. -/
def ofDeparted : Option (ClientId × String) → Json
  | none => .null
  | some (id, option) => ofTexts [id.text, option]

def ofClient (client : Client) : Json :=
  .array [.string client.id.text, .string client.option,
    ofText? (client.connectionId?.map ConnectionId.text)]

def clients (registry : ClientRegistry) : Json :=
  .array (registry.clients.toList.map fun entry => ofClient entry.2)

/-- The clients online with their options, in the order of their ids. -/
def clientOptions (registry : ClientRegistry) : Json :=
  .array (registry.clients.toList.map fun entry => ofTexts [entry.1.text, entry.2.option])

/-- The idle clients in their order, each with the time since when it is idle. -/
def idleClients (registry : ClientRegistry) : Json :=
  .array (registry.idleEntries.map fun entry =>
    .array [.string entry.1.text, .ofInt entry.2.toInt])

def entry : Entry → Json
  | .emit connection event data => ofTexts [connection, "emit", event, data.compact]
  | .join connection room => ofTexts [connection, "join", room]
  | .leave connection room => ofTexts [connection, "leave", room]
  | .broadcast connection room event data =>
    ofTexts [connection, "broadcast", room, event, data.compact]
  | .disconnect connection => ofTexts [connection, "disconnect"]
  | .authenticating token => ofTexts ["hook", "auth", token]
  | .connected client option => ofTexts ["hook", "connect", client.text, option]
  | .disconnected client option => ofTexts ["hook", "disconnect", client.text, option]
  | .signaled handler client text => ofTexts ["hook", "signal", handler, client.text, text]

def journal (entries : Journal) : Json := .array (entries.map entry)

end Report

end SocketGateway
