import SocketGateway.Json.Value

/-!
Contract: the fields of JSON descriptions.

Owns:
- reading texts, numbers, truth values and lists from the fields of an object, where a field that is
  missing or of another kind has a default.

Does not own: what is described.
-/

namespace SocketGateway.Script

/-- The integer that a value is. -/
def integer? : Json → Option Int
  | .integer value => some value.val
  | _ => none

/-- The field of an object; null if it is missing. -/
def field (key : String) (data : Json) : Json := (data.field? key).getD .null

def text? (key : String) (data : Json) : Option String := (field key data).string?

/-- A text field; empty if there is none. -/
def text (key : String) (data : Json) : String := (text? key data).getD ""

def int? (key : String) (data : Json) : Option Int := integer? (field key data)

def nat? (key : String) (data : Json) : Option Nat :=
  (int? key data).bind fun value => if 0 ≤ value then some value.toNat else none

def flag? (key : String) (data : Json) : Option Bool :=
  match field key data with
  | .bool value => some value
  | _ => none

/-- The items of a value; none if it is no array. -/
def itemsOf : Json → List Json
  | .array items => items
  | _ => []

def items (key : String) (data : Json) : List Json := itemsOf (field key data)

/-- The members of a value; none if it is no object. -/
def membersOf : Json → List (String × Json)
  | .object fields => fields
  | _ => []

/-- The texts of a list; an item that is no text counts as an empty one. -/
def texts (key : String) (data : Json) : List String :=
  (items key data).map fun item => item.string?.getD ""

/-- A pair of texts. -/
def pair? : Json → Option (String × String)
  | .array [.string left, .string right] => some (left, right)
  | _ => none

/-- The pairs of texts in a list. -/
def pairs (key : String) (data : Json) : List (String × String) :=
  (items key data).filterMap pair?

end SocketGateway.Script
