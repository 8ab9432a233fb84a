import SocketGateway.Proofs.Json.Spelling

/-!
Contract: JSON values are read from their own text.

Owns:
- that the tokens of a tree are assembled to that tree, whatever follows them;
- that the compact text of a value without floats spells the tree of the value;
- that the tree of a value in normal form stands for that value, and that only such values are read.

Does not own: floats, whose literals may stand for other doubles.
-/

namespace SocketGateway.Json

/-! ### Assembling -/

namespace Assembly

private theorem run?_cons {state : Assembly} {token : Token} (next : Assembly)
    (steps : state.step? token = some next) (rest : List Token) :
    state.run? (token :: rest) = next.run? rest := by
  rw [run?, steps]
  rfl

/-- The first item of an array is read like any other value. -/
theorem run?_itemOrEnd (opened : List OpenTree) (item : Tree) (rest : List Token) :
    run? ⟨opened, .itemOrEnd⟩ (item.tokens ++ rest) =
      run? ⟨opened, .value⟩ (item.tokens ++ rest) := by
  cases item with
  | word | number | string => rfl
  | array items => cases items <;> rfl
  | object members => cases members <;> rfl

mutual

/-- The tokens of a tree finish a value. -/
theorem run?_tokens (opened : List OpenTree) :
    ∀ (tree : Tree) (rest : List Token),
      run? ⟨opened, .value⟩ (tree.tokens ++ rest) = run? (finish opened tree) rest
  | .word _, _ => rfl
  | .number _, _ => rfl
  | .string _, _ => rfl
  | .array [], _ => rfl
  | .array (item :: more), rest => by
    rw [Tree.tokens, List.cons_append, List.append_assoc,
      run?_cons ⟨.array [] :: opened, .itemOrEnd⟩ rfl, run?_itemOrEnd, run?_tokens,
      run?_itemsTokens]
    rfl
  | .object [], _ => rfl
  | .object ((key, value) :: more), rest => by
    rw [Tree.tokens, List.cons_append, List.cons_append, List.cons_append, List.append_assoc,
      run?_cons ⟨opened, .keyOrEnd⟩ rfl, run?_cons ⟨opened, .colon [] key⟩ rfl,
      run?_cons ⟨.object [] key :: opened, .value⟩ rfl, run?_tokens, run?_membersTokens]
    rfl

private theorem run?_itemsTokens (opened : List OpenTree) (done : List Tree) (finished : Tree) :
    ∀ (more : List Tree) (rest : List Token),
      run? (finish (.array done :: opened) finished) (itemsTokens more ++ rest) =
        run? (finish opened (.array ((finished :: done).reverse ++ more))) rest
  | [], rest => by
    rw [List.append_nil]
    exact run?_cons _ rfl rest
  | item :: more, rest => by
    rw [itemsTokens, List.cons_append, List.append_assoc,
      run?_cons ⟨.array (finished :: done) :: opened, .value⟩ rfl, run?_tokens,
      run?_itemsTokens, List.reverse_cons, List.append_assoc]
    rfl

private theorem run?_membersTokens (opened : List OpenTree) (done : List (List Piece × Tree))
    (key : List Piece) (finished : Tree) :
    ∀ (more : List (List Piece × Tree)) (rest : List Token),
      run? (finish (.object done key :: opened) finished) (membersTokens more ++ rest) =
        run? (finish opened (.object (((key, finished) :: done).reverse ++ more))) rest
  | [], rest => by
    rw [List.append_nil]
    exact run?_cons _ rfl rest
  | (name, value) :: more, rest => by
    rw [membersTokens, List.cons_append, List.cons_append, List.cons_append, List.append_assoc,
      run?_cons ⟨opened, .key ((key, finished) :: done)⟩ rfl,
      run?_cons ⟨opened, .colon ((key, finished) :: done) name⟩ rfl,
      run?_cons ⟨.object ((key, finished) :: done) name :: opened, .value⟩ rfl,
      run?_tokens, run?_membersTokens, List.reverse_cons (a := (name, value)), List.append_assoc]
    rfl

end

end Assembly

private theorem ofTokens?_tokens (tree : Tree) : Tree.ofTokens? tree.tokens = some tree := by
  have assembled := Assembly.run?_tokens [] tree []
  rw [List.append_nil] at assembled
  rw [Tree.ofTokens?, assembled]
  rfl

/-! ### Cutting -/

/-- What follows a value inside brackets. -/
inductive Closes : List Token → Prop where
  | comma (rest : List Token) : Closes (.comma :: rest)
  | closeBracket (rest : List Token) : Closes (.closeBracket :: rest)
  | closeBrace (rest : List Token) : Closes (.closeBrace :: rest)
  | nothing : Closes []

theorem Closes.stops {tokens : List Token} (closes : Closes tokens) :
    Stops (tokens.flatMap Token.chars) := by
  cases closes with
  | nothing => exact nofun
  | comma rest | closeBracket rest | closeBrace rest =>
    rintro c cs ⟨⟩
    decide

private theorem Cuttable.symbol {token : Token} {rest : List Token} (plain : token.Plain)
    (notNumber : ∀ literal, token ≠ .number literal) (cuttable : Cuttable rest) :
    Cuttable (token :: rest) :=
  .cons plain (fun literal isNumber => absurd isNumber (notNumber literal)) cuttable

private theorem closes_itemsTokens (items : List Tree) (rest : List Token) :
    Closes (itemsTokens items ++ rest) := by
  cases items with
  | nil => exact .closeBracket rest
  | cons item more => exact .comma _

private theorem closes_membersTokens (members : List (List Piece × Tree)) (rest : List Token) :
    Closes (membersTokens members ++ rest) := by
  cases members with
  | nil => exact .closeBrace rest
  | cons member more => exact .comma _

mutual

/-- The tokens of a value without floats can be told from each other. -/
theorem cuttable_tokens : ∀ (value : Json) (rest : List Token), value.FloatFree →
    Closes rest → Cuttable rest → Cuttable (value.tree.tokens ++ rest)
  | .null, rest, _, _, cuttable => .symbol trivial nofun cuttable
  | .bool _, rest, _, _, cuttable => .symbol trivial nofun cuttable
  | .integer value, rest, _, closes, cuttable =>
    .cons ⟨value.val, rfl⟩ (fun _ _ => closes.stops) cuttable
  | .string value, rest, _, _, cuttable => .symbol ⟨value.toList, rfl⟩ nofun cuttable
  | .array [], rest, _, _, cuttable =>
    .symbol trivial nofun (.symbol trivial nofun cuttable)
  | .array (item :: more), rest, floatFree, _, cuttable => by
    rw [tree, itemsTree, Tree.tokens, List.cons_append, List.append_assoc]
    refine .symbol trivial nofun (cuttable_tokens item _ floatFree.1 (closes_itemsTokens _ _) ?_)
    exact cuttable_itemsTokens more rest floatFree.2 cuttable
  | .object [], rest, _, _, cuttable =>
    .symbol trivial nofun (.symbol trivial nofun cuttable)
  | .object ((key, value) :: more), rest, floatFree, _, cuttable => by
    rw [tree, fieldsTree, Tree.tokens, List.cons_append, List.cons_append, List.cons_append,
      List.append_assoc]
    refine .symbol trivial nofun (.symbol ⟨key.toList, rfl⟩ nofun (.symbol trivial nofun
      (cuttable_tokens value _ floatFree.1 (closes_membersTokens _ _) ?_)))
    exact cuttable_membersTokens more rest floatFree.2 cuttable

private theorem cuttable_itemsTokens : ∀ (items : List Json) (rest : List Token),
    ItemsFloatFree items → Cuttable rest → Cuttable (itemsTokens (itemsTree items) ++ rest)
  | [], rest, _, cuttable => .symbol trivial nofun cuttable
  | item :: more, rest, floatFree, cuttable => by
    rw [itemsTree, itemsTokens, List.cons_append, List.append_assoc]
    refine .symbol trivial nofun (cuttable_tokens item _ floatFree.1 (closes_itemsTokens _ _) ?_)
    exact cuttable_itemsTokens more rest floatFree.2 cuttable

private theorem cuttable_membersTokens : ∀ (fields : List (String × Json)) (rest : List Token),
    FieldsFloatFree fields → Cuttable rest → Cuttable (membersTokens (fieldsTree fields) ++ rest)
  | [], rest, _, cuttable => .symbol trivial nofun cuttable
  | (key, value) :: more, rest, floatFree, cuttable => by
    rw [fieldsTree, membersTokens, List.cons_append, List.cons_append, List.cons_append,
      List.append_assoc]
    refine .symbol trivial nofun (.symbol ⟨key.toList, rfl⟩ nofun (.symbol trivial nofun
      (cuttable_tokens value _ floatFree.1 (closes_membersTokens _ _) ?_)))
    exact cuttable_membersTokens more rest floatFree.2 cuttable

end

/-- The compact text of a value without floats spells the tree of the value. -/
theorem ofChars?_compact {value : Json} (floatFree : value.FloatFree) :
    Tree.ofChars? value.compact.toList = some value.tree := by
  have cuttable := cuttable_tokens value [] floatFree .nothing .nil
  rw [List.append_nil] at cuttable
  rw [Tree.ofChars?, compact, Tree.compact, String.toList_ofList, tokens?_chars cuttable]
  exact ofTokens?_tokens value.tree

/-! ### Values -/

private theorem decodePieces?_char (cs : List Char) : decodePieces? (cs.map .char) = some cs := by
  induction cs with
  | nil => rfl
  | cons c cs inductionHypothesis =>
    rw [List.map_cons, decodePieces?, inductionHypothesis]
    rfl

theorem stringOfPieces?_char (value : String) :
    stringOfPieces? (value.toList.map .char) = some value := by
  rw [stringOfPieces?, decodePieces?_char, Option.map_some, String.ofList_toList]

private theorem digitsValue_eq (digits : List Char) :
    digitsValue digits = Nat.ofDigitChars 10 digits 0 := by
  unfold digitsValue digitValue Nat.ofDigitChars
  congr
  funext value c
  rw [Nat.mul_comm]
  rfl

private theorem digitsValue_toDigits (n : Nat) : digitsValue (Nat.toDigits 10 n) = n := by
  rw [digitsValue_eq, Nat.ofDigitChars_ten_toDigits]

theorem integer?_ofInt (value : WordInteger) : (Literal.ofInt value.val).integer? = some value := by
  have unfolded : (Literal.ofInt value.val).integer? =
      if value.val < 0 then
        if value.val.natAbs = 0 then none else WordInteger.ofInt? (-(value.val.natAbs : Int))
      else WordInteger.ofInt? value.val.natAbs := by
    simp only [Literal.integer?, Literal.ofInt, digitsValue_toDigits, decide_eq_true_eq,
      Option.isSome_none, Bool.or_self, Bool.false_eq_true, ↓reduceIte]
  by_cases negative : value.val < 0
  · have isValue : -(value.val.natAbs : Int) = value.val := by omega
    rw [unfolded, if_pos negative, if_neg (by omega), isValue, value.ofInt?_val]
  · have isValue : (value.val.natAbs : Int) = value.val := by omega
    rw [unfolded, if_neg negative, isValue, value.ofInt?_val]

/-- The literal of an integer stands for that integer. -/
theorem value?_ofInt (value : WordInteger) :
    (Literal.ofInt value.val).value? = some (.integer value) := by
  rw [Literal.value?, integer?_ofInt]

private theorem insertField_last {key : String} {value : Json} {fields : List (String × Json)}
    (last : ∀ field ∈ fields, compare field.1 key = .lt) :
    insertField key value fields = fields ++ [(key, value)] := by
  induction fields with
  | nil => rfl
  | cons field rest inductionHypothesis =>
    have later : compare key field.1 = .gt :=
      Std.OrientedCmp.gt_of_lt (last field List.mem_cons_self)
    rw [insertField, later]
    dsimp only
    rw [inductionHypothesis fun other isRest => last other (List.mem_cons_of_mem field isRest)]
    rfl

/-- Fields that ascend make up the object with these fields. -/
theorem ofFields_of_ascend {fields : List (String × Json)} (ascend : KeysAscend fields) :
    ofFields fields = .object fields := by
  have collected : ∀ done, KeysAscend (done ++ fields) →
      fields.foldl (fun sorted field => insertField field.1 field.2 sorted) done =
        done ++ fields := by
    clear ascend
    induction fields with
    | nil => simp
    | cons field rest inductionHypothesis =>
      intro done ascend
      have last : ∀ earlier ∈ done, compare earlier.1 field.1 = .lt := by
        intro earlier isDone
        rw [KeysAscend, List.map_append, List.pairwise_append] at ascend
        exact ascend.2.2 _ (List.mem_map_of_mem isDone) _ (by simp)
      rw [List.foldl_cons, insertField_last last, inductionHypothesis _ (by simpa using ascend)]
      simp
  rw [ofFields, collected [] ascend]
  rfl

mutual

/-- The tree of a value in normal form stands for the value, at its depth and any larger one. -/
theorem value?_tree : ∀ (value : Json) (limit : Nat), value.Normal → value.FloatFree →
    value.depth ≤ limit → value.tree.value? limit = some value
  | .null, _, _, _, _ => rfl
  | .bool true, _, _, _, _ => rfl
  | .bool false, _, _, _, _ => rfl
  | .integer value, _, _, _, _ => value?_ofInt value
  | .string value, _, _, _, _ => by
    rw [tree, Tree.value?, stringOfPieces?_char]
    rfl
  | .array items, limit, normal, floatFree, deep => by
    rw [depth] at deep
    rw [tree, Tree.value?, if_neg (by omega),
      itemsValue?_itemsTree items (limit - 1) normal floatFree (by omega)]
    rfl
  | .object fields, limit, normal, floatFree, deep => by
    rw [depth] at deep
    rw [tree, Tree.value?, if_neg (by omega),
      membersValue?_fieldsTree fields (limit - 1) normal.2 floatFree (by omega), Option.map_some,
      ofFields_of_ascend normal.1]

private theorem itemsValue?_itemsTree : ∀ (items : List Json) (limit : Nat), ItemsNormal items →
    ItemsFloatFree items → itemsDepth items ≤ limit →
      itemsValue? limit (itemsTree items) = some items
  | [], _, _, _, _ => rfl
  | item :: more, limit, normal, floatFree, deep => by
    rw [itemsDepth] at deep
    rw [itemsTree, itemsValue?, value?_tree item limit normal.1 floatFree.1 (by omega),
      itemsValue?_itemsTree more limit normal.2 floatFree.2 (by omega)]
    rfl

theorem membersValue?_fieldsTree : ∀ (fields : List (String × Json)) (limit : Nat),
    FieldsNormal fields → FieldsFloatFree fields → fieldsDepth fields ≤ limit →
      membersValue? limit (fieldsTree fields) = some fields
  | [], _, _, _, _ => rfl
  | (key, value) :: more, limit, normal, floatFree, deep => by
    rw [fieldsDepth] at deep
    rw [fieldsTree, membersValue?, stringOfPieces?_char,
      value?_tree value limit normal.1 floatFree.1 (by omega),
      membersValue?_fieldsTree more limit normal.2 floatFree.2 (by omega)]
    rfl

end

/-! ### Normal form -/

private theorem mem_insertField {key : String} {value : Json} {fields : List (String × Json)}
    {field : String × Json} (among : field ∈ insertField key value fields) :
    field = (key, value) ∨ field ∈ fields := by
  induction fields with
  | nil => exact Or.inl (List.mem_singleton.mp among)
  | cons first rest inductionHypothesis =>
    rw [insertField] at among
    cases order : compare key first.1 with
    | lt =>
      rw [order] at among
      exact List.mem_cons.mp among
    | eq =>
      rw [order] at among
      exact (List.mem_cons.mp among).imp_right (List.mem_cons_of_mem first)
    | gt =>
      rw [order] at among
      rcases List.mem_cons.mp among with isFirst | later
      · exact Or.inr (isFirst ▸ List.mem_cons_self)
      · exact (inductionHypothesis later).imp_right (List.mem_cons_of_mem first)

private theorem keysAscend_cons {field : String × Json} {fields : List (String × Json)} :
    KeysAscend (field :: fields) ↔
      (∀ other ∈ fields, compare field.1 other.1 = .lt) ∧ KeysAscend fields := by
  simp [KeysAscend]

private theorem keysAscend_insertField (key : String) (value : Json) {fields : List (String × Json)}
    (ascend : KeysAscend fields) : KeysAscend (insertField key value fields) := by
  induction fields with
  | nil => simp [insertField, KeysAscend]
  | cons first rest inductionHypothesis =>
    obtain ⟨smallest, others⟩ := keysAscend_cons.mp ascend
    rw [insertField]
    cases order : compare key first.1 with
    | lt =>
      refine keysAscend_cons.mpr ⟨?_, ascend⟩
      intro other isOther
      rcases List.mem_cons.mp isOther with rfl | later
      · exact order
      · exact Std.TransCmp.lt_trans order (smallest other later)
    | eq =>
      refine keysAscend_cons.mpr ⟨?_, others⟩
      intro other isOther
      rw [Std.LawfulEqCmp.eq_of_compare order]
      exact smallest other isOther
    | gt =>
      refine keysAscend_cons.mpr ⟨?_, inductionHypothesis others⟩
      intro other isOther
      rcases mem_insertField isOther with rfl | later
      · exact Std.OrientedCmp.lt_of_gt order
      · exact smallest other later

private theorem fieldsNormal_iff {fields : List (String × Json)} :
    FieldsNormal fields ↔ ∀ field ∈ fields, field.2.Normal := by
  induction fields with
  | nil => simp [FieldsNormal]
  | cons field rest inductionHypothesis => simp [FieldsNormal, inductionHypothesis]

/-- An object has its keys in ascending order, and no fields but those that make it up. -/
theorem ofFields_eq (fields : List (String × Json)) :
    ∃ sorted, ofFields fields = .object sorted ∧ KeysAscend sorted ∧
      ∀ field ∈ sorted, field ∈ fields := by
  have collected : ∀ done, KeysAscend done →
      let sorted := fields.foldl (fun sorted field => insertField field.1 field.2 sorted) done
      KeysAscend sorted ∧ ∀ field ∈ sorted, field ∈ fields ∨ field ∈ done := by
    induction fields with
    | nil => exact fun done ascend => ⟨ascend, fun _ => Or.inr⟩
    | cons field rest inductionHypothesis =>
      intro done ascend
      obtain ⟨ascends, origin⟩ := inductionHypothesis _ (keysAscend_insertField _ _ ascend)
      refine ⟨ascends, fun other among => ?_⟩
      rcases origin other among with isRest | isNext
      · exact Or.inl (List.mem_cons_of_mem field isRest)
      · rcases mem_insertField isNext with rfl | before
        · exact Or.inl List.mem_cons_self
        · exact Or.inr before
  obtain ⟨ascends, origin⟩ := collected [] List.Pairwise.nil
  exact ⟨_, rfl, ascends, fun field among => (origin field among).resolve_right List.not_mem_nil⟩

/-- Fields with normal values make up a normal object, whatever their order. -/
theorem normal_ofFields {fields : List (String × Json)} (normal : FieldsNormal fields) :
    (ofFields fields).Normal := by
  obtain ⟨sorted, isObject, ascends, origin⟩ := ofFields_eq fields
  rw [isObject]
  rw [fieldsNormal_iff] at normal
  exact ⟨ascends, fieldsNormal_iff.mpr fun field among => normal field (origin field among)⟩

private theorem normal_of_literal {literal : Literal} {value : Json}
    (read : literal.value? = some value) : value.Normal := by
  unfold Literal.value? at read
  split at read
  · cases read
    trivial
  · obtain ⟨float, -, rfl⟩ := Option.map_eq_some_iff.mp read
    trivial

mutual

/-- What is read from a tree is in normal form. -/
theorem normal_of_value? : ∀ (tree : Tree) (limit : Nat) (value : Json),
    tree.value? limit = some value → value.Normal
  | .word keyword, _, _, read => by
    cases read
    cases keyword <;> trivial
  | .number literal, _, _, read => normal_of_literal read
  | .string pieces, _, _, read => by
    obtain ⟨text, -, rfl⟩ := Option.map_eq_some_iff.mp read
    trivial
  | .array items, limit, _, read => by
    rw [Tree.value?] at read
    split at read
    · cases read
    · obtain ⟨values, readItems, rfl⟩ := Option.map_eq_some_iff.mp read
      exact normal_of_itemsValue? items _ values readItems
  | .object members, limit, _, read => by
    rw [Tree.value?] at read
    split at read
    · cases read
    · obtain ⟨fields, readMembers, rfl⟩ := Option.map_eq_some_iff.mp read
      exact normal_ofFields (normal_of_membersValue? members _ fields readMembers)

private theorem normal_of_itemsValue? : ∀ (items : List Tree) (limit : Nat) (values : List Json),
    itemsValue? limit items = some values → ItemsNormal values
  | [], _, _, read => by
    cases read
    trivial
  | item :: more, limit, _, read => by
    simp only [itemsValue?, Option.bind_eq_bind, Option.bind_eq_some_iff, Option.pure_def,
      Option.some.injEq] at read
    obtain ⟨value, readItem, values, readMore, rfl⟩ := read
    exact ⟨normal_of_value? item limit value readItem,
      normal_of_itemsValue? more limit values readMore⟩

private theorem normal_of_membersValue? : ∀ (members : List (List Piece × Tree)) (limit : Nat)
    (fields : List (String × Json)), membersValue? limit members = some fields →
      FieldsNormal fields
  | [], _, _, read => by
    cases read
    trivial
  | (key, member) :: more, limit, _, read => by
    simp only [membersValue?, Option.bind_eq_bind, Option.bind_eq_some_iff, Option.pure_def,
      Option.some.injEq] at read
    obtain ⟨name, -, value, readMember, fields, readMore, rfl⟩ := read
    exact ⟨normal_of_value? member limit value readMember,
      normal_of_membersValue? more limit fields readMore⟩

end

theorem normal_of_ofText? {text : String} {value : Json} (read : ofText? text = some value) :
    value.Normal := by
  obtain ⟨tree, -, readTree⟩ := Option.bind_eq_some_iff.mp read
  exact normal_of_value? tree maxDepth value readTree

/-- A value in normal form without floats is read from its compact text, unless it is too deep. -/
theorem ofText?_compact {value : Json} (normal : value.Normal) (floatFree : value.FloatFree)
    (deep : value.depth ≤ maxDepth) : ofText? value.compact = some value := by
  rw [ofText?, ofChars?_compact floatFree]
  exact value?_tree value maxDepth normal floatFree deep

end SocketGateway.Json
