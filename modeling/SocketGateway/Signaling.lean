import SocketGateway.ClientRegistry

/-!
Contract: which handler answers an inbound event.

Owns:
- handlers, which act on the world that they share with the transport;
- adaptors, which list events and supply handlers for some of them;
- the table of handlers, where the last one supplied for an event counts;
- dispatching an event under the identity of its sender.

Does not own: what handlers do, or what becomes of their responses.
-/

namespace SocketGateway

/-- Answers an event: from the connection on which it came, the client to which that belongs and
the data of the event, it makes a response and a new world. -/
abbrev Handler (World : Type) := Connection → ClientId → Json → World → String × World

/-- What an application handles. An event that is listed may be without a handler. -/
structure Adaptor (World : Type) where
  events : List String
  handler? : String → Option (Handler World)

structure Signaling (World : Type) where
  handlers : Std.TreeMap String (Handler World) := ∅

namespace Signaling

variable {World : Type}

/-- Takes over the handler of one listed event, if the adaptor has one. -/
def addEvent (adaptor : Adaptor World) (signaling : Signaling World) (event : String) :
    Signaling World :=
  match adaptor.handler? event with
  | some handler => { handlers := signaling.handlers.insert event handler }
  | none => signaling

/-- Takes over the handlers of all events that the adaptor lists. -/
def setAdapter (signaling : Signaling World) (adaptor : Adaptor World) : Signaling World :=
  adaptor.events.foldl (addEvent adaptor) signaling

def events (signaling : Signaling World) : List String := signaling.handlers.keys

/-- The handler of an event and the client that sent it. -/
def route (signaling : Signaling World) (registry : ClientRegistry) (connection : Connection)
    (event : String) : Except DispatchError (Handler World × ClientId) :=
  match signaling.handlers[event]? with
  | none => .error (.unknownEvent event)
  | some handler =>
    match registry.lookup connection.id with
    | none => .error (.unregistered connection.id.text)
    | some id => .ok (handler, id)

/-- Runs the handler of an event as the client to which the connection belongs. -/
def dispatch (signaling : Signaling World) (registry : ClientRegistry) (connection : Connection)
    (event : String) (data : Json) (world : World) : Except DispatchError String × World :=
  match signaling.route registry connection event with
  | .error cause => (.error cause, world)
  | .ok (handler, id) =>
    let (response, after) := handler connection id data world
    (.ok response, after)

end Signaling

end SocketGateway
