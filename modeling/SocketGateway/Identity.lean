import Std.Data.TreeMap
import SocketGateway.Text.Blank

/-!
Contract: the names by which the gateway knows clients, connections and handshakes.

Owns:
- client ids, given by an authentication decision and never blank when made by `ClientId.ofText`;
- connection ids, given by the transport;
- correlation tokens, each handed out for one handshake;
- their order, which is the order of their texts.

Does not own: how fresh ids and tokens are drawn.
-/

namespace SocketGateway

/-- The logical identity of a client. -/
structure ClientId where
  text : String
deriving DecidableEq, Repr

/-- The transport's name of one connection. Any text is one. -/
structure ConnectionId where
  text : String
deriving DecidableEq, Repr

/-- The name of one authenticated handshake. Any text is one. -/
structure CorrelationToken where
  text : String
deriving DecidableEq, Repr

/-- Why a text is no client id. -/
inductive ClientIdError where
  | blank
deriving DecidableEq, Repr

def ClientIdError.message : ClientIdError → String
  | .blank => "client id must not be empty"

/-- The client id of a text, which must not be blank. -/
def ClientId.ofText (text : String) : Except ClientIdError ClientId :=
  if Text.isBlank text then .error .blank else .ok ⟨text⟩

theorem ClientId.ofText_eq_ok_iff {text : String} {id : ClientId} :
    ClientId.ofText text = .ok id ↔ Text.isBlank text = false ∧ id.text = text := by
  rcases id with ⟨known⟩
  by_cases blank : Text.isBlank text = true
  · simp [ofText, blank]
  · simp [ofText, blank, eq_comm]

instance : Ord ClientId := ⟨fun left right => compare left.text right.text⟩

instance : Ord ConnectionId := ⟨fun left right => compare left.text right.text⟩

instance : Ord CorrelationToken := ⟨fun left right => compare left.text right.text⟩

instance : Std.TransOrd ClientId where
  eq_swap := Std.OrientedOrd.eq_swap (α := String)
  isLE_trans := Std.TransOrd.isLE_trans (α := String)

instance : Std.TransOrd ConnectionId where
  eq_swap := Std.OrientedOrd.eq_swap (α := String)
  isLE_trans := Std.TransOrd.isLE_trans (α := String)

instance : Std.TransOrd CorrelationToken where
  eq_swap := Std.OrientedOrd.eq_swap (α := String)
  isLE_trans := Std.TransOrd.isLE_trans (α := String)

instance : Std.LawfulEqOrd ClientId where
  eq_of_compare {left right} same := by
    cases left; cases right
    exact congrArg ClientId.mk (Std.LawfulEqOrd.eq_of_compare (α := String) same)

instance : Std.LawfulEqOrd ConnectionId where
  eq_of_compare {left right} same := by
    cases left; cases right
    exact congrArg ConnectionId.mk (Std.LawfulEqOrd.eq_of_compare (α := String) same)

instance : Std.LawfulEqOrd CorrelationToken where
  eq_of_compare {left right} same := by
    cases left; cases right
    exact congrArg CorrelationToken.mk (Std.LawfulEqOrd.eq_of_compare (α := String) same)

end SocketGateway
