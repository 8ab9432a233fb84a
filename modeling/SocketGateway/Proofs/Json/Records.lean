import SocketGateway.Frame
import SocketGateway.Proofs.Json.Nesting

/-!
Contract: records are read from what was written field by field.

Owns:
- the text of a record, which spells the tree of an object with these fields in this order;
- the value of a record, in whatever order its fields stand;
- finding the fields of a record, and reading the plain kinds of fields.

Does not own: which records there are.
-/

namespace SocketGateway

namespace Json

/-! ### Text and value -/

/-- The text of a record spells the tree of an object with its fields in their order. -/
theorem ofChars?_record {fields : List (String × Json)} (floatFree : FieldsFloatFree fields) :
    Tree.ofChars? (recordTree fields).compact.toList = some (Json.object fields).tree :=
  @ofChars?_compact (.object fields) floatFree

/-- The fields of a record make up its value, whatever their order. -/
theorem value?_record {fields : List (String × Json)} {limit : Nat} (normal : FieldsNormal fields)
    (floatFree : FieldsFloatFree fields) (deep : fieldsDepth fields < limit) :
    (Json.object fields).tree.value? limit = some (ofFields fields) := by
  rw [tree, Tree.value?, if_neg (by omega),
    membersValue?_fieldsTree fields (limit - 1) normal floatFree (by omega), Option.map_some]

/-! ### Fields -/

private theorem namedMembers?_fieldsTree (fields : List (String × Json)) :
    namedMembers? (fieldsTree fields) = some (fields.map fun field => (field.1, field.2.tree)) := by
  induction fields with
  | nil => rfl
  | cons field rest inductionHypothesis =>
    rw [fieldsTree, namedMembers?, stringOfPieces?_char, inductionHypothesis]
    rfl

/-- The fields of an object are found among the trees of its values. -/
theorem fields?_object (names : List (List String)) (fields : List (String × Json)) :
    (Json.object fields).tree.fields? names =
      names.mapM (soleMember? (fields.map fun field => (field.1, field.2.tree))) := by
  rw [tree, Tree.fields?, namedMembers?_fieldsTree]
  rfl

theorem namedFields?_object (names : List (List String)) (fields : List (String × Json)) :
    (Json.object fields).tree.namedFields? names = (Json.object fields).tree.fields? names := by
  rw [tree, Tree.namedFields?]

section Pairs

variable {first second : String} (different : first ≠ second) (value other : Json)

include different

/-- Two fields with different names are told from each other, in one order -/
theorem fields?_pair :
    (Json.object [(first, value), (second, other)]).tree.fields? [[first], [second]] =
      some [some value.tree, some other.tree] := by
  simp [fields?_object, soleMember?, different, different.symm]

/-- and in the other one. -/
theorem fields?_swapped :
    (Json.object [(first, value), (second, other)]).tree.fields? [[second], [first]] =
      some [some other.tree, some value.tree] := by
  simp [fields?_object, soleMember?, different, different.symm]

/-- A name that neither of them has is not found. -/
theorem fields?_lacking {name : String} (notFirst : first ≠ name) (notSecond : second ≠ name) :
    (Json.object [(first, value), (second, other)]).tree.fields? [[name], [second]] =
      some [none, some other.tree] := by
  simp [fields?_object, soleMember?, different, notFirst, notSecond]

end Pairs

private theorem natural?_integer {value : WordInteger} {bound : Nat}
    (inRange : 0 ≤ value.val ∧ value.val < bound) :
    (Json.integer value).tree.natural? bound = some value.val.toNat := by
  rw [tree, Tree.natural?, integer?_ofInt]
  exact if_pos inRange

theorem natural?_ofWord {word : UInt64} {bound : Nat} (less : word.toNat < bound) :
    (Json.ofWord word).tree.natural? bound = some word.toNat :=
  natural?_integer ⟨Int.natCast_nonneg _, Int.ofNat_lt.mpr less⟩

theorem word?_ofWord (word : UInt64) : (Json.ofWord word).tree.word? = some word := by
  rw [Tree.word?, natural?_ofWord word.toNat_lt_size, Option.map_some, UInt64.ofNat_toNat]

theorem string?_string (text : String) : (Json.string text).tree.string? = some text :=
  stringOfPieces?_char text

end Json

end SocketGateway
