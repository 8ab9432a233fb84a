import SocketGateway.HookTable
import SocketGateway.Script.Field
import SocketGateway.Signaling.Stock

/-!
Contract: JSON descriptions of a gateway and its application.

Owns:
- settings, where a missing one has its default;
- clocks that stand still or step;
- tables of hooks, and listings of handlers.

Does not own: what happens to the gateway.
-/

namespace SocketGateway.Script

def config (data : Json) : Config :=
  let defaults : Config := {}
  { appName := (text? "app_name" data).getD defaults.appName
    interval := (nat? "interval" data).getD defaults.interval
    timeout := (nat? "timeout" data).getD defaults.timeout
    maxConnections := (nat? "max_connections" data).getD defaults.maxConnections
    optionRequired := (flag? "option_required" data).getD defaults.optionRequired
    authPrefix := (text? "auth_prefix" data).getD defaults.authPrefix
    pendingTtl := (nat? "pending_ttl" data).getD defaults.pendingTtl
    onceBoundTtl := (nat? "once_bound_ttl" data).getD defaults.onceBoundTtl }

/-- The clock of a description: it stands still at `fixed`, or it steps. -/
def clock (data : Json) : Clock :=
  match int? "fixed" data with
  | some time => .fixed (Int64.ofInt time)
  | none =>
    .stepping (Int64.ofInt ((int? "start" data).getD 1000))
      (Int64.ofInt ((int? "step" data).getD 10))

/-- What an account gives: an id with an option, or a reason against the token. -/
def account? (value : Json) : Option (Except String (String × String)) :=
  match value with
  | .string reason => some (.error reason)
  | other => (pair? other).map .ok

/-- The accounts of a description; there is no hook if it is no object. -/
def accounts? : Json → Option (List (String × Except String (String × String)))
  | .object fields =>
    some (fields.filterMap fun member => (account? member.2).map fun account =>
      (member.1, account))
  | _ => none

/-- The refusals of a description; there is no hook if it is no object. -/
def refusals? : Json → Option (List (String × String))
  | .object fields =>
    some (fields.filterMap fun member => member.2.string?.map fun reason => (member.1, reason))
  | _ => none

def hookTable (data : Json) : HookTable where
  accounts := accounts? (field "auth" data)
  refusals := refusals? (field "connect" data)
  farewells := (flag? "disconnect" data).getD false

/-- One line of a listing: an event and the name of its handler, if it has one. -/
def listed? : Json → Option (String × Option StockHandler)
  | .array [.string event, .string name] => some (event, StockHandler.ofName? name)
  | .array (.string event :: _) => some (event, none)
  | _ => none

def listing (key : String) (data : Json) : List (String × Option StockHandler) :=
  (items key data).filterMap listed?

end SocketGateway.Script
