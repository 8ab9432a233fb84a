import SocketGateway.Json.Tree
import SocketGateway.Json.Number

/-!
Contract: JSON values and their text, in both directions.

Owns:
- the value of a tree, with its limit on nesting;
- reading a value from a text;
- the tree of a value, and compact text.

Does not own: records, whose fields are read one by one.
-/

namespace SocketGateway.Json

/-- The most arrays and objects that may enclose one another in a text that is read. -/
def maxDepth : Nat := 127

/-- The text of a string; surrogates must come in pairs, high before low. -/
def decodePieces? : List Piece → Option (List Char)
  | [] => some []
  | .char value :: rest => (decodePieces? rest).map (value :: ·)
  | .surrogate high :: .surrogate low :: rest =>
    if high < 0xdc00 ∧ 0xdc00 ≤ low then
      (decodePieces? rest).map
        (Char.ofNat (0x10000 + (high - 0xd800) * 0x400 + (low - 0xdc00)) :: ·)
    else none
  | .surrogate _ :: _ => none

def stringOfPieces? (pieces : List Piece) : Option String :=
  (decodePieces? pieces).map String.ofList

def Keyword.value : Keyword → Json
  | .null => .null
  | .true => .bool Bool.true
  | .false => .bool Bool.false

mutual

/-- The value of a tree in which at most `limit` arrays and objects enclose one another. -/
def Tree.value? (limit : Nat) : Tree → Option Json
  | .word keyword => some keyword.value
  | .number literal => literal.value?
  | .string pieces => (stringOfPieces? pieces).map .string
  | .array items =>
    if limit = 0 then none else (itemsValue? (limit - 1) items).map .array
  | .object members =>
    if limit = 0 then none else (membersValue? (limit - 1) members).map ofFields

def itemsValue? (limit : Nat) : List Tree → Option (List Json)
  | [] => some []
  | item :: rest => do
    let value ← item.value? limit
    let values ← itemsValue? limit rest
    return value :: values

def membersValue? (limit : Nat) : List (List Piece × Tree) → Option (List (String × Json))
  | [] => some []
  | (key, item) :: rest => do
    let name ← stringOfPieces? key
    let value ← item.value? limit
    let values ← membersValue? limit rest
    return (name, value) :: values

end

def ofText? (text : String) : Option Json := do
  (← Tree.ofChars? text.toList).value? maxDepth

mutual

/-- The tree that spells a value. -/
def tree : Json → Tree
  | .null => .word .null
  | .bool value => .word (if value then .true else .false)
  | .integer value => .number (.ofInt value.val)
  | .float value => .number (.ofFloat value)
  | .string value => .string (value.toList.map .char)
  | .array items => .array (itemsTree items)
  | .object fields => .object (fieldsTree fields)

def itemsTree : List Json → List Tree
  | [] => []
  | item :: rest => item.tree :: itemsTree rest

def fieldsTree : List (String × Json) → List (List Piece × Tree)
  | [] => []
  | (key, value) :: rest => (key.toList.map .char, value.tree) :: fieldsTree rest

end

/-- The compact text of a tree: its tokens without white space. -/
def Tree.compact (tree : Tree) : String :=
  String.ofList (tree.tokens.flatMap Token.chars)

def compact (value : Json) : String := value.tree.compact

end SocketGateway.Json
