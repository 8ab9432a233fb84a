import SocketGateway.Identity
import SocketGateway.Json.Value

/-!
Contract: a record of the calls that leave the gateway.

Owns:
- one entry for each call to a transport, to an application hook or to a handler;
- journals, which list entries in the order of the calls.

Does not own: who writes a journal.
-/

namespace SocketGateway

/-- A call that left the gateway. Connections are named by their labels. -/
inductive Entry where
  | emit (connection event : String) (data : Json)
  | join (connection room : String)
  | leave (connection room : String)
  | broadcast (connection room event : String) (data : Json)
  | disconnect (connection : String)
  | authenticating (token : String)
  | connected (client : ClientId) (option : String)
  | disconnected (client : ClientId) (option : String)
  | signaled (handler : String) (client : ClientId) (text : String)

/-- The calls in their order. -/
abbrev Journal := List Entry

end SocketGateway
