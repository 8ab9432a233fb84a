import SocketGateway.Json.Text

/-!
Contract: records read from JSON trees.

Owns:
- finding the fields of a record, by name in an object or by position in an array;
- reading the plain kinds of fields.

A field that the record does not know is checked for its spelling only. A field that it knows must
not occur twice.

Does not own: which fields a record has, and which of them may be missing.
-/

namespace SocketGateway.Json

/-- The members of an object under the names that their keys spell. -/
def namedMembers? : List (List Piece × Tree) → Option (List (String × Tree))
  | [] => some []
  | (key, value) :: rest => do
    let name ← stringOfPieces? key
    let others ← namedMembers? rest
    return (name, value) :: others

/-- The one member with a name among `spellings`, if there is one; two of them are refused. -/
def soleMember? (members : List (String × Tree)) (spellings : List String) : Option (Option Tree) :=
  match members.filter fun member => spellings.contains member.1 with
  | [] => some none
  | [member] => some (some member.2)
  | _ => none

/-- The fields of a record, in the order of `names`; each field is given by its spellings. In an
array the fields stand in that order, and the last ones may be missing. -/
def Tree.fields? (names : List (List String)) : Tree → Option (List (Option Tree))
  | .object members => do
    let members ← namedMembers? members
    names.mapM (soleMember? members)
  | .array items =>
    if items.length ≤ names.length then
      some (items.map some ++ List.replicate (names.length - items.length) none)
    else none
  | _ => none

/-- The fields of a record that must be an object. -/
def Tree.namedFields? (names : List (List String)) : Tree → Option (List (Option Tree))
  | .object members => Tree.fields? names (.object members)
  | _ => none

def Tree.string? : Tree → Option String
  | .string pieces => stringOfPieces? pieces
  | _ => none

def Tree.bool? : Tree → Option Bool
  | .word .true => some true
  | .word .false => some false
  | _ => none

/-- Reads a natural number below `bound`; a literal with a fraction or an exponent is none. -/
def Tree.natural? (bound : Nat) : Tree → Option Nat
  | .number literal =>
    match literal.integer? with
    | some value => if 0 ≤ value.val ∧ value.val < bound then some value.val.toNat else none
    | none => none
  | _ => none

def Tree.word? (tree : Tree) : Option UInt64 :=
  (tree.natural? UInt64.size).map UInt64.ofNat

/-- Reads a field that may be missing: it then has the value `default`. -/
def optionalField {α : Type} (read : Tree → Option α) (default : α) : Option Tree → Option α
  | none => some default
  | some tree => read tree

end SocketGateway.Json
