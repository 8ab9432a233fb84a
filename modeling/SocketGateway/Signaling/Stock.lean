import SocketGateway.Frame
import SocketGateway.Journal
import SocketGateway.Signaling

/-!
Contract: ready-made signaling handlers.

Owns:
- handlers that echo, tell the sender's identity, answer as they are told, and act on the sender's
  connection;
- the two handlers with which the server program starts.

Every handler takes its data as a text: a string as it is, any other value as its compact text. It
notes its call before it acts.

Does not own: dispatching.
-/

namespace SocketGateway

/-- The ready-made handlers. -/
inductive StockHandler where
  /-- Answers with the compact text of the data. -/
  | echo
  | whoami
  /-- Answers with the text itself, without an envelope. -/
  | raw
  /-- Answers with a failure that carries the text. -/
  | fail
  /-- Joins the room that the text names. -/
  | join
  /-- Leaves the room that the text names. -/
  | leave
  | rooms
  /-- Sends the data back as an event. -/
  | emit
  /-- Broadcasts to a room; room, event and data are fields of the data. -/
  | broadcast
  | bye
deriving DecidableEq, Repr

namespace StockHandler

variable {World : Type}

def all : List StockHandler :=
  [echo, whoami, raw, fail, join, leave, rooms, emit, broadcast, bye]

def name : StockHandler → String
  | echo => "echo"
  | whoami => "whoami"
  | raw => "raw"
  | fail => "fail"
  | join => "join"
  | leave => "leave"
  | rooms => "rooms"
  | emit => "emit"
  | broadcast => "broadcast"
  | bye => "bye"

def ofName? (name : String) : Option StockHandler := all.find? fun handler => handler.name = name

/-- The text of the data of an event. -/
def textOf : Json → String
  | .string text => text
  | data => data.compact

/-- A string field of the data; empty if there is none. -/
def stringField (key : String) (data : Json) : String :=
  ((data.field? key).bind Json.string?).getD ""

/-- The response to a call of the transport. -/
def respond (answer : Except TransportError Unit × World) : String × World :=
  match answer with
  | (.ok (), world) => (ackOk "ok", world)
  | (.error cause, world) => (ackError cause.message, world)

/-- What the handler does after it noted its call. -/
def act (transport : Transport World) (handler : StockHandler) : Handler World :=
  fun connection id data world =>
    match handler with
    | echo => (ackOk data.compact, world)
    | whoami => (ackOk id.text, world)
    | raw => (textOf data, world)
    | fail => (ackError (textOf data), world)
    | join => respond (transport.join connection (textOf data) world)
    | leave => respond (transport.leave connection (textOf data) world)
    | rooms => (ackOk (Json.array ((transport.rooms connection world).map .string)).compact, world)
    | emit => respond (transport.emit connection "from-handler" data world)
    | broadcast =>
      respond (transport.broadcast connection (stringField "room" data) (stringField "event" data)
        ((data.field? "data").getD .null) world)
    | bye => (ackOk "bye", transport.disconnect connection world)

/-- The handler, which notes its call in the world first. -/
def handler (transport : Transport World) (note : Entry → World → World)
    (stock : StockHandler) : Handler World :=
  fun connection id data world =>
    stock.act transport connection id data (note (.signaled stock.name id (textOf data)) world)

/-- The adaptor that lists these events in order. Of several handlers for one event the last one
counts. -/
def adaptor (transport : Transport World) (note : Entry → World → World)
    (listing : List (String × Option StockHandler)) : Adaptor World where
  events := listing.map Prod.fst
  handler? := fun event =>
    ((listing.reverse.find? fun entry => entry.1 = event && entry.2.isSome).bind Prod.snd).map
      (handler transport note)

/-- The events that the server program answers. -/
def demo : List (String × Option StockHandler) :=
  [("echo", some echo), ("whoami", some whoami)]

end StockHandler

end SocketGateway
