import SocketGateway.Proofs.Json.RoundTrip

/-!
Contract: how deep texts are, and the values that are read from them.

Owns:
- the depth of a text, in which every member of an object counts;
- that no text is read that is deeper than the limit, and that its value is no deeper than the text;
- that the text of a value is as deep as the value.

A text can be deeper than its value, because the value lacks members that a later one with the same
key replaces.

Does not own: which limit a reader sets.
-/

namespace SocketGateway.Json

/-! ### The depth of a text -/

mutual

/-- How many arrays and objects of a text enclose the deepest one, itself included. -/
def Tree.depth : Tree → Nat
  | .array items => treesDepth items + 1
  | .object members => membersDepth members + 1
  | _ => 0

def treesDepth : List Tree → Nat
  | [] => 0
  | item :: rest => max item.depth (treesDepth rest)

def membersDepth : List (List Piece × Tree) → Nat
  | [] => 0
  | (_, member) :: rest => max member.depth (membersDepth rest)

end

mutual

/-- The tree of a value is as deep as the value. -/
theorem depth_tree : ∀ value : Json, value.tree.depth = value.depth
  | .null | .bool _ | .integer _ | .float _ | .string _ => rfl
  | .array items => by rw [tree, Tree.depth, treesDepth_itemsTree items, depth]
  | .object fields => by rw [tree, Tree.depth, membersDepth_fieldsTree fields, depth]

private theorem treesDepth_itemsTree :
    ∀ items : List Json, treesDepth (itemsTree items) = itemsDepth items
  | [] => rfl
  | item :: more => by
    rw [itemsTree, treesDepth, depth_tree item, treesDepth_itemsTree more, itemsDepth]

private theorem membersDepth_fieldsTree : ∀ fields : List (String × Json),
    membersDepth (fieldsTree fields) = fieldsDepth fields
  | [] => rfl
  | (key, value) :: more => by
    rw [fieldsTree, membersDepth, depth_tree value, membersDepth_fieldsTree more, fieldsDepth]

end

/-! ### Fields that make up an object -/

private theorem fieldsDepth_le_iff {fields : List (String × Json)} {limit : Nat} :
    fieldsDepth fields ≤ limit ↔ ∀ field ∈ fields, field.2.depth ≤ limit := by
  induction fields with
  | nil => simp [fieldsDepth]
  | cons field rest inductionHypothesis =>
    rw [fieldsDepth, Nat.max_le, inductionHypothesis, List.forall_mem_cons]

/-- An object is no deeper than the fields that make it up. -/
theorem depth_ofFields_le (fields : List (String × Json)) :
    (ofFields fields).depth ≤ fieldsDepth fields + 1 := by
  obtain ⟨sorted, isObject, -, origin⟩ := ofFields_eq fields
  have each := fieldsDepth_le_iff.mp (Nat.le_refl (fieldsDepth fields))
  have sortedDeep : fieldsDepth sorted ≤ fieldsDepth fields :=
    fieldsDepth_le_iff.mpr fun field among => each field (origin field among)
  rw [isObject]
  exact Nat.succ_le_succ sortedDeep

/-! ### What is read is within the limit -/

private theorem depth_of_literal {literal : Literal} {value : Json}
    (read : literal.value? = some value) : value.depth = 0 := by
  unfold Literal.value? at read
  split at read
  · cases read
    rfl
  · obtain ⟨float, -, rfl⟩ := Option.map_eq_some_iff.mp read
    rfl

mutual

/-- A tree that is read is no deeper than the limit, and its value no deeper than the tree. -/
theorem depths_of_value? : ∀ (tree : Tree) (limit : Nat) (value : Json),
    tree.value? limit = some value → value.depth ≤ tree.depth ∧ tree.depth ≤ limit
  | .word keyword, _, _, read => by
    cases read
    cases keyword <;> exact ⟨Nat.le_refl _, Nat.zero_le _⟩
  | .number literal, _, _, read => by
    rw [depth_of_literal read]
    exact ⟨Nat.le_refl _, Nat.zero_le _⟩
  | .string pieces, _, _, read => by
    obtain ⟨text, -, rfl⟩ := Option.map_eq_some_iff.mp read
    exact ⟨Nat.le_refl _, Nat.zero_le _⟩
  | .array items, limit, _, read => by
    rw [Tree.value?] at read
    split at read
    · cases read
    · obtain ⟨values, readItems, rfl⟩ := Option.map_eq_some_iff.mp read
      have deep := depths_of_itemsValue? items (limit - 1) values readItems
      rw [depth, Tree.depth]
      omega
  | .object members, limit, _, read => by
    rw [Tree.value?] at read
    split at read
    · cases read
    · obtain ⟨fields, readMembers, rfl⟩ := Option.map_eq_some_iff.mp read
      have deep := depths_of_membersValue? members (limit - 1) fields readMembers
      have collected := depth_ofFields_le fields
      rw [Tree.depth]
      omega

private theorem depths_of_itemsValue? : ∀ (items : List Tree) (limit : Nat) (values : List Json),
    itemsValue? limit items = some values →
      itemsDepth values ≤ treesDepth items ∧ treesDepth items ≤ limit
  | [], _, _, read => by
    cases read
    exact ⟨Nat.le_refl _, Nat.zero_le _⟩
  | item :: more, limit, _, read => by
    simp only [itemsValue?, Option.bind_eq_bind, Option.bind_eq_some_iff, Option.pure_def,
      Option.some.injEq] at read
    obtain ⟨value, readItem, values, readMore, rfl⟩ := read
    have itemDeep := depths_of_value? item limit value readItem
    have moreDeep := depths_of_itemsValue? more limit values readMore
    rw [itemsDepth, treesDepth]
    omega

private theorem depths_of_membersValue? : ∀ (members : List (List Piece × Tree)) (limit : Nat)
    (fields : List (String × Json)), membersValue? limit members = some fields →
      fieldsDepth fields ≤ membersDepth members ∧ membersDepth members ≤ limit
  | [], _, _, read => by
    cases read
    exact ⟨Nat.le_refl _, Nat.zero_le _⟩
  | (key, member) :: more, limit, _, read => by
    simp only [membersValue?, Option.bind_eq_bind, Option.bind_eq_some_iff, Option.pure_def,
      Option.some.injEq] at read
    obtain ⟨name, -, value, readMember, fields, readMore, rfl⟩ := read
    have memberDeep := depths_of_value? member limit value readMember
    have moreDeep := depths_of_membersValue? more limit fields readMore
    rw [fieldsDepth, membersDepth]
    omega

end

/-- What is read from a tree is no deeper than the limit. -/
theorem depth_of_value? {tree : Tree} {limit : Nat} {value : Json}
    (read : tree.value? limit = some value) : value.depth ≤ limit := by
  obtain ⟨valueDeep, treeDeep⟩ := depths_of_value? tree limit value read
  exact Nat.le_trans valueDeep treeDeep

theorem depth_of_ofText? {text : String} {value : Json} (read : ofText? text = some value) :
    value.depth ≤ maxDepth := by
  obtain ⟨tree, -, readTree⟩ := Option.bind_eq_some_iff.mp read
  exact depth_of_value? readTree

/-- The tree of a value is not read within a limit that the value exceeds. -/
theorem value?_tree_of_deep {value : Json} {limit : Nat} (deep : limit < value.depth) :
    value.tree.value? limit = none := by
  cases read : value.tree.value? limit with
  | none => rfl
  | some other =>
    have within := (depths_of_value? value.tree limit other read).2
    rw [depth_tree] at within
    omega

end SocketGateway.Json
