import SocketGateway.Config
import SocketGateway.Error
import SocketGateway.Handshake
import SocketGateway.PendingBinds

/-!
Contract: which handshakes are let in, and as whom.

Owns:
- where a handshake carries its token: in a header next to an author header with the right start,
  or else in the query;
- the decision on a token, by the application's hook or without one;
- why a handshake is denied.

Does not own: the handover to the connect event.
-/

namespace SocketGateway.Authentication

/-- The headers that name the author; the first one that is present counts. -/
def authorHeaders : List String := ["Author", "Authoration"]

def tokenHeader : String := "Token"

def tokenField : String := "token"

def denied {α : Type} (reason : String) : Except GatewayError α := .error (.authDenied reason)

def author? (request : Handshake) : Option String := authorHeaders.findSome? request.header?

/-- The token header, if the author header starts with `authPrefix` and the token is not empty. -/
def headerToken? (authPrefix : String) (request : Handshake) : Option String := do
  let author ← author? request
  let token ← request.header? tokenHeader
  if authPrefix.toList.isPrefixOf author.toList ∧ token ≠ "" then some token else none

/-- The token field of the query, if it is not empty. -/
def queryToken? (request : Handshake) : Option String := do
  let token ← request.query? tokenField
  if token ≠ "" then some token else none

def extractToken (authPrefix : String) (request : Handshake) : Except GatewayError String :=
  match headerToken? authPrefix request <|> queryToken? request with
  | some token => .ok token
  | none => denied "no token in handshake"

/-- The client id that a text gives, or the denial of a blank one. -/
def clientId (text : String) : Except GatewayError ClientId :=
  match ClientId.ofText text with
  | .ok id => .ok id
  | .error .blank => denied "empty client id"

def bindOfAnswer (optionRequired : Bool) :
    Except String (String × String) → Except GatewayError PendingBind
  | .error reason => denied reason
  | .ok (text, option) =>
    match clientId text with
    | .error cause => .error cause
    | .ok id =>
      if optionRequired && option = "" then
        denied ("client '" ++ id.text ++ "' has no option")
      else .ok ⟨id, option⟩

/-- The bind of a token when there is no hook: the token is the client's id. -/
def bindOfToken (token : String) : Except GatewayError PendingBind :=
  match clientId token with
  | .error cause => .error cause
  | .ok id => .ok ⟨id, ""⟩

end SocketGateway.Authentication
