import SocketGateway.Identity
import SocketGateway.Expiring.Map

/-!
Contract: the handover from an authenticated handshake to its connect event.

Owns:
- the binds that wait for their connect events, each for a limited time;
- the tokens whose connect events were processed, each remembered for a limited time;
- the admission of a connect event.

Times are in nanoseconds.

Does not own: tokens, or what an admitted connect event does.
-/

namespace SocketGateway

/-- What an authentication decided: the client and its option. -/
structure PendingBind where
  client : ClientId
  option : String
deriving DecidableEq, Repr

/-- What a connect event may do. -/
inductive Admission where
  /-- A connect event of this handshake was processed just before. -/
  | duplicate
  /-- It goes on, with the bind that waited for it, if there is one. -/
  | admitted (bind? : Option PendingBind)
deriving DecidableEq, Repr

/-- The most entries of each of the two tables. -/
def maxPending : Nat := 100000

/-- The two tables of the handover. -/
structure PendingBinds where
  binds : ExpiringMap CorrelationToken PendingBind
  onceBound : ExpiringMap CorrelationToken Unit

namespace PendingBinds

def new (pendingTtl onceBoundTtl : Nat) : PendingBinds where
  binds := .new pendingTtl maxPending
  onceBound := .new onceBoundTtl maxPending

/-- Keeps a bind for the connect event that will present the token. -/
def stash (table : PendingBinds) (token : CorrelationToken) (bind : PendingBind) (now : Nat) :
    PendingBinds :=
  { table with binds := table.binds.insert token bind now }

/-- Admits a connect event. The first one of a token marks the token and takes its bind; while the
mark lasts, further ones are duplicates and change neither bind nor mark. -/
def beginConnect (table : PendingBinds) (token : CorrelationToken) (now : Nat) :
    Admission × PendingBinds :=
  match table.onceBound.contains token now with
  | (true, onceBound) => (.duplicate, { table with onceBound := onceBound })
  | (false, onceBound) =>
    let (bind?, binds) := table.binds.take token now
    (.admitted bind?, ⟨binds, onceBound.insert token () now⟩)

/-- Purges the binds and counts those that are left. -/
def count (table : PendingBinds) (now : Nat) : Nat × PendingBinds :=
  let binds := table.binds.purge now
  (binds.size, { table with binds := binds })

end PendingBinds

end SocketGateway
