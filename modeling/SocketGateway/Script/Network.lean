import SocketGateway.Network.Turn
import SocketGateway.Report
import SocketGateway.Script.Setup

/-!
Contract: JSON descriptions of what happens to a network, and reports of its turns.

Owns:
- actions, by the word under `do`;
- networks as they start, from the description of their gateway and its application;
- the report of a turn.

Does not own: what an action does.
-/

namespace SocketGateway

namespace Script

def attempt (data : Json) : Attempt where
  method := (text? "method" data).getD "GET"
  upgrade := (flag? "upgrade" data).getD true
  headers := pairs "headers" data
  query := text? "query" data
  reading := !(flag? "mute" data).getD false

def peerAction? (word : String) (data : Json) : Option PeerAction :=
  match word with
  | "send" => some (.send (text "text" data))
  | "send_binary" => some .sendBinary
  | "ping" => some .ping
  | "pong" => some .pong
  | "close" => some .close
  | "drop" => some .drop
  | "unmute" => some .unmute
  | _ => none

def action? (data : Json) : Option Action :=
  match text "do" data with
  | "connect" => some (.connect (text "as" data) (attempt data))
  | "http" => some (.request (text "method" data) (text "path" data))
  | "advance" => some (.advance ((nat? "secs" data).getD 0))
  | "signaling" => some (.signal (text "id" data) (text "event" data) (field "data" data))
  | "add_staffer" => some (.addStaffer (text "group" data) (text "id" data))
  | "staffers" => some (.staffers (text "group" data))
  | word => (peerAction? word data).map (.act (text "as" data))

end Script

namespace Network

/-- A network with a new gateway, the hooks of a table and a listing of handlers. -/
def start (config : Config) (clock : Clock) (hooks : HookTable)
    (listing : List (String × Option StockHandler)) : Network where
  server :=
    { gateway := ((Gateway.new config clock).setHooks (hooks.hooks note)).setAdapter
        (StockHandler.adaptor (Hub.transport Journal) note listing)
      app := [] }

def ofScript (data : Json) : Network :=
  start (Script.config (Script.field "config" data)) (Script.clock (Script.field "clock" data))
    (Script.hookTable data) (Script.listing "adapter" data)

end Network

namespace Report

def outcome : Outcome → Json
  | .done => done
  | .answered response =>
    .ofFields (("status", .ofNat response.status) ::
      response.body.toList.map fun body => ("body", body))
  | .noSuchPeer => bareRefusal "NoSuchPeer"
  | .peerClosed => bareRefusal "PeerClosed"
  | .noClientId cause => clientIdRefusal cause
  | .refused cause => gatewayRefusal cause
  | .added isNew => .bool isNew
  | .listed clients => ofClientIds clients

def delivery : Delivery → Json
  | .text content => .ofFields [("text", .string content)]
  | .ping => .string "ping"
  | .close => .string "close"
  | .ended => .string "end"

/-- What peers read, by their names. -/
def received (network : Network) : Json :=
  .object (network.received.toList.map fun entry => (entry.1, .array (entry.2.map delivery)))

def turn (result : Outcome × Network) : Json :=
  let registry := result.2.server.gateway.clients
  .ofFields [
    ("r", outcome result.1),
    ("recv", received result.2),
    ("log", journal result.2.server.app),
    ("clients", clientOptions registry),
    ("idle", idleClients registry)]

end Report

end SocketGateway
