import SocketGateway.Gateway
import SocketGateway.Journal

/-!
Contract: hooks that decide by tables.

Owns:
- accounts, which give for each token a client's id and option or a reason against it;
- clients that are refused, each with a reason;
- the hooks that look their answers up there, and note every call before they answer it.

Does not own: when a hook runs.
-/

namespace SocketGateway

/-- What the hooks of an application decide. A hook whose part is missing is not installed. -/
structure HookTable where
  /-- What a token gives; of two lines for one token the first counts. -/
  accounts : Option (List (String × Except String (String × String))) := none
  /-- Why a client is refused; clients that are not listed are welcome. -/
  refusals : Option (List (String × String)) := none
  /-- Whether the application is told of clients that left. -/
  farewells : Bool := false

namespace HookTable

/-- The answer to a token that is in no account. -/
def unknownToken : Except String (String × String) := .error "unknown token"

/-- The hooks of a table. `note` records a call in the world. -/
def hooks {World : Type} (note : Entry → World → World) (table : HookTable) : Hooks World where
  authenticate := table.accounts.map fun accounts token world =>
    ((accounts.lookup token).getD unknownToken, note (.authenticating token) world)
  connect := table.refusals.map fun refusals client option world =>
    (match refusals.lookup client.text with
      | some reason => .error reason
      | none => .ok (),
      note (.connected client option) world)
  disconnect :=
    if table.farewells then
      some fun client option world => note (.disconnected client option) world
    else none

end HookTable

end SocketGateway
