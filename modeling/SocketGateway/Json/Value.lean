/-!
Contract: JSON values as frames carry them.

Owns:
- the integers that JSON text carries exactly;
- the values, whose objects list their fields in ascending order of keys;
- insertion into such a field list, where the last writer of a key wins;
- the normal form and the nesting depth of a value.

Does not own: the text of a value.
-/

namespace SocketGateway

/-- An integer that a signed or an unsigned 64-bit word holds. -/
structure WordInteger where
  val : Int
  inRange : -0x8000000000000000 ≤ val ∧ val < 0x10000000000000000
deriving DecidableEq, Repr

namespace WordInteger

/-- The word integer of that value, if there is one. -/
def ofInt? (value : Int) : Option WordInteger :=
  if inRange : -0x8000000000000000 ≤ value ∧ value < 0x10000000000000000 then
    some ⟨value, inRange⟩
  else none

def ofUInt64 (word : UInt64) : WordInteger :=
  ⟨(word.toNat : Int), by have := word.toNat_lt; omega⟩

theorem ofInt?_val (n : WordInteger) : ofInt? n.val = some n := by
  simp only [ofInt?, dif_pos n.inRange]

end WordInteger

/-- A JSON value. An object keeps its fields in ascending order of keys, one field a key; that is
`Json.Normal`, and reading and `Json.ofFields` establish it. -/
inductive Json where
  | null
  | bool (value : Bool)
  | integer (value : WordInteger)
  | float (value : Float)
  | string (value : String)
  | array (items : List Json)
  | object (fields : List (String × Json))
deriving Inhabited

namespace Json

/-- Puts `value` under `key` into an ascending field list; an older value of the key is dropped. -/
def insertField (key : String) (value : Json) : List (String × Json) → List (String × Json)
  | [] => [(key, value)]
  | field :: rest =>
    match compare key field.1 with
    | .lt => (key, value) :: field :: rest
    | .eq => (key, value) :: rest
    | .gt => field :: insertField key value rest

/-- The object with these fields; of two fields with one key the later one counts. -/
def ofFields (fields : List (String × Json)) : Json :=
  .object (fields.foldl (fun sorted field => insertField field.1 field.2 sorted) [])

/-- The value of the field `key` of an object; nothing for any other value. -/
def field? (key : String) : Json → Option Json
  | .object fields => fields.lookup key
  | _ => none

/-- The text of a string value; nothing for any other value. -/
def string? : Json → Option String
  | .string value => some value
  | _ => none

/-- The natural number `n`, if a word holds it. Beyond that range the value is null. -/
def ofNat (n : Nat) : Json :=
  match WordInteger.ofInt? n with
  | some value => .integer value
  | none => .null

/-- The integer `n`, if a word holds it. Beyond that range the value is null. -/
def ofInt (n : Int) : Json :=
  match WordInteger.ofInt? n with
  | some value => .integer value
  | none => .null

mutual

/-- How many arrays and objects enclose the deepest one, itself included. -/
def depth : Json → Nat
  | .array items => itemsDepth items + 1
  | .object fields => fieldsDepth fields + 1
  | _ => 0

def itemsDepth : List Json → Nat
  | [] => 0
  | item :: rest => max item.depth (itemsDepth rest)

def fieldsDepth : List (String × Json) → Nat
  | [] => 0
  | (_, value) :: rest => max value.depth (fieldsDepth rest)

end

/-- The keys of a field list stand in strictly ascending order. -/
def KeysAscend (fields : List (String × Json)) : Prop :=
  (fields.map Prod.fst).Pairwise fun left right => compare left right = .lt

mutual

/-- Every object inside the value lists its keys in strictly ascending order. -/
def Normal : Json → Prop
  | .array items => ItemsNormal items
  | .object fields => KeysAscend fields ∧ FieldsNormal fields
  | _ => True

def ItemsNormal : List Json → Prop
  | [] => True
  | item :: rest => item.Normal ∧ ItemsNormal rest

def FieldsNormal : List (String × Json) → Prop
  | [] => True
  | (_, value) :: rest => value.Normal ∧ FieldsNormal rest

end

mutual

/-- No number inside the value is a float. -/
def FloatFree : Json → Prop
  | .float _ => False
  | .array items => ItemsFloatFree items
  | .object fields => FieldsFloatFree fields
  | _ => True

def ItemsFloatFree : List Json → Prop
  | [] => True
  | item :: rest => item.FloatFree ∧ ItemsFloatFree rest

def FieldsFloatFree : List (String × Json) → Prop
  | [] => True
  | (_, value) :: rest => value.FloatFree ∧ FieldsFloatFree rest

end

mutual

def FloatFree.decide : (value : Json) → Decidable value.FloatFree
  | .null | .bool _ | .integer _ | .string _ => .isTrue trivial
  | .float _ => .isFalse id
  | .array items => ItemsFloatFree.decide items
  | .object fields => FieldsFloatFree.decide fields

def ItemsFloatFree.decide : (items : List Json) → Decidable (ItemsFloatFree items)
  | [] => .isTrue trivial
  | item :: rest => @instDecidableAnd _ _ (FloatFree.decide item) (ItemsFloatFree.decide rest)

def FieldsFloatFree.decide : (fields : List (String × Json)) → Decidable (FieldsFloatFree fields)
  | [] => .isTrue trivial
  | (_, value) :: rest =>
    @instDecidableAnd _ _ (FloatFree.decide value) (FieldsFloatFree.decide rest)

end

instance : DecidablePred FloatFree := FloatFree.decide

end Json

end SocketGateway
