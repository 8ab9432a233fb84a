import SocketGateway.Proofs.Json.Records

/-!
Contract: outbound frames are read from their own text.

Owns:
- acknowledgements and events, whose data is read back up to the depth that a frame leaves for it;
- envelopes, and the acknowledgement of a response that is the text of one;
- which answers cannot be read, because their value leaves no level of nesting for the frame; a
  response that is deep enough as a text may still be answered, if its deep members are replaced.

Does not own: who acknowledges what.
-/

namespace SocketGateway

open Json

/-! ### Frames -/

namespace ServerFrame

/-- The fields of a frame in the order in which they are written. -/
def fields : ServerFrame → List (String × Json)
  | .ack number data => [("ack", .ofWord number), ("data", data)]
  | .event name data => [("event", .string name), ("data", data)]

def data : ServerFrame → Json
  | .ack _ data => data
  | .event _ data => data

theorem text_eq (frame : ServerFrame) : frame.text = (recordTree frame.fields).compact := by
  cases frame <;> rfl

variable {frame : ServerFrame}

private theorem fieldsDepth_fields (frame : ServerFrame) :
    fieldsDepth frame.fields = frame.data.depth := by
  cases frame <;> simp only [fields, data, fieldsDepth, depth, Json.ofWord] <;> omega

private theorem fieldsNormal_fields (normal : frame.data.Normal) : FieldsNormal frame.fields := by
  cases frame <;> exact ⟨trivial, normal, trivial⟩

theorem fieldsFloatFree_fields (floatFree : frame.data.FloatFree) :
    FieldsFloatFree frame.fields := by
  cases frame <;> exact ⟨trivial, floatFree, trivial⟩

private theorem ackOfTree?_of_fields {tree first second : Tree} {number : UInt64} {data : Json}
    (members : tree.namedFields? [["ack"], ["data"]] = some [some first, some second])
    (isNumber : first.word? = some number) (isData : second.value? (maxDepth - 1) = some data) :
    ackOfTree? tree = some (.ack number data) := by
  simp [ackOfTree?, members, isNumber, isData]

private theorem ackOfTree?_of_lacking {tree : Tree} {data : Option Tree}
    (members : tree.namedFields? [["ack"], ["data"]] = some [none, data]) :
    ackOfTree? tree = none := by
  simp [ackOfTree?, members]

private theorem eventOfTree?_of_fields {tree first second : Tree} {name : String} {data : Json}
    (members : tree.namedFields? [["event"], ["data"]] = some [some first, some second])
    (isName : first.string? = some name) (isData : second.value? (maxDepth - 1) = some data) :
    eventOfTree? tree = some (.event name data) := by
  simp [eventOfTree?, members, isName, isData]

/-- The fields of a frame tell an acknowledgement from an event. -/
theorem ofTree?_fields (stands : frame.data.tree.value? (maxDepth - 1) = some frame.data) :
    (ackOfTree? (Json.object frame.fields).tree <|> eventOfTree? (Json.object frame.fields).tree) =
      some frame := by
  cases frame with
  | ack number data =>
    have different : "ack" ≠ "data" := by decide +kernel
    have members := fields?_pair different (Json.ofWord number) data
    rw [← namedFields?_object] at members
    rw [fields, ackOfTree?_of_fields members (word?_ofWord number) stands]
    rfl
  | event name data =>
    have different : "event" ≠ "data" := by decide +kernel
    have noAck : "event" ≠ "ack" ∧ "data" ≠ "ack" := by decide +kernel
    have members := fields?_pair different (Json.string name) data
    have lacking := fields?_lacking different (Json.string name) data noAck.1 noAck.2
    rw [← namedFields?_object] at members lacking
    rw [fields, ackOfTree?_of_lacking lacking,
      eventOfTree?_of_fields members (string?_string name) stands]
    rfl

/-- A frame is read from its text, if its data leaves a level of nesting to it, -/
theorem ofText?_text (normal : frame.data.Normal) (floatFree : frame.data.FloatFree)
    (deep : frame.data.depth < maxDepth) : ofText? frame.text = some frame := by
  have spelled := ofChars?_record (fieldsFloatFree_fields floatFree)
  have stands : (Json.object frame.fields).tree.value? maxDepth = some (ofFields frame.fields) :=
    value?_record (fieldsNormal_fields normal) (fieldsFloatFree_fields floatFree)
      (by rw [fieldsDepth_fields]; exact deep)
  have dataStands : frame.data.tree.value? (maxDepth - 1) = some frame.data :=
    value?_tree _ _ normal floatFree (by omega)
  rw [text_eq, ofText?, spelled, Option.bind_eq_bind, Option.bind_some, stands]
  exact ofTree?_fields dataStands

/-- and not otherwise. -/
theorem ofText?_text_of_deep (floatFree : frame.data.FloatFree)
    (deep : maxDepth ≤ frame.data.depth) : ofText? frame.text = none := by
  have spelled := ofChars?_record (fieldsFloatFree_fields floatFree)
  have tooDeep : (Json.object frame.fields).tree.value? maxDepth = none := by
    apply value?_tree_of_deep
    rw [depth, fieldsDepth_fields]
    omega
  rw [text_eq, ofText?, spelled, Option.bind_eq_bind, Option.bind_some, tooDeep]
  rfl

end ServerFrame

/-! ### Envelopes -/

namespace AckEnvelope

/-- The fields of an envelope in order of their keys. -/
theorem value_eq (envelope : AckEnvelope) :
    envelope.value =
      .object [("message", .string envelope.message), ("state", envelope.stateValue)] := by
  have order : compare "message" "state" = .lt := by decide +kernel
  simp [value, ofFields, insertField, order]

theorem normal_value (envelope : AckEnvelope) : envelope.value.Normal :=
  normal_ofFields ⟨trivial, trivial, trivial⟩

theorem floatFree_value (envelope : AckEnvelope) : envelope.value.FloatFree := by
  rw [value_eq]
  exact ⟨trivial, trivial, trivial⟩

theorem depth_value (envelope : AckEnvelope) : envelope.value.depth = 1 := by
  rw [value_eq]
  rfl

private theorem ofTree?_of_fields {tree first second : Tree} {state : Nat} {message : String}
    (members : tree.fields? [["state"], ["message"]] = some [some first, some second])
    (isState : first.natural? 256 = some state) (isMessage : second.string? = some message) :
    ofTree? tree = some ⟨UInt8.ofNat state, message⟩ := by
  simp [ofTree?, members, isState, isMessage]

/-- An envelope is read from the object that carries it. -/
theorem ofTree?_value (envelope : AckEnvelope) : ofTree? envelope.value.tree = some envelope := by
  have fields : envelope.value.tree.fields? [["state"], ["message"]] =
      some [some envelope.stateValue.tree, some (Json.string envelope.message).tree] := by
    rw [value_eq]
    exact fields?_swapped (by decide +kernel) _ _
  have small : envelope.state.toUInt64.toNat < 256 := by
    rw [UInt8.toNat_toUInt64]
    exact envelope.state.toNat_lt
  have state : envelope.stateValue.tree.natural? 256 = some envelope.state.toNat := by
    rw [stateValue, natural?_ofWord small, UInt8.toNat_toUInt64]
  rw [ofTree?_of_fields fields state (string?_string _), UInt8.ofNat_toNat]

/-- The text of the object that carries an envelope spells this object. -/
theorem ofText?_compact (envelope : AckEnvelope) :
    Json.ofText? envelope.value.compact = some envelope.value :=
  Json.ofText?_compact envelope.normal_value envelope.floatFree_value
    (by rw [depth_value]; decide)

end AckEnvelope

/-! ### Answers -/

/-- The response of a handler is answered with the envelope that it spells. -/
theorem answer_ackOk (number : UInt64) (message : String) :
    ServerFrame.answer number (ackOk message) =
      .ack number (AckEnvelope.value ⟨AckEnvelope.succeeded, message⟩) := by
  rw [ServerFrame.answer, ackOk, AckEnvelope.ofText?_compact, Option.getD_some]

/-- The response in place of a handler is answered with the envelope that it spells. -/
theorem answer_ackError (number : UInt64) (message : String) :
    ServerFrame.answer number (ackError message) =
      .ack number (AckEnvelope.value ⟨AckEnvelope.failed, message⟩) := by
  rw [ServerFrame.answer, ackError, AckEnvelope.ofText?_compact, Option.getD_some]

namespace ServerFrame

/-- The response is a text that is read, and in which so many arrays and objects enclose one
another. -/
def TextHasDepth (response : String) (levels : Nat) : Prop :=
  ∃ tree, Tree.ofChars? response.toList = some tree ∧ tree.depth = levels ∧
    (tree.value? maxDepth).isSome = true

/-- The response spells a value in which so many arrays and objects enclose one another. Members
that a later one with the same key replaces are in the text, but not in the value. -/
def ValueHasDepth (response : String) (levels : Nat) : Prop :=
  ∃ value, Json.ofText? response = some value ∧ value.depth = levels

/-- An answer carries the value that its response spells, or else the response itself. -/
theorem answer_cases (number : UInt64) (response : String) :
    Json.ofText? response = none ∧ answer number response = .ack number (.string response) ∨
      ∃ value, Json.ofText? response = some value ∧ answer number response = .ack number value := by
  rw [answer]
  cases spells : Json.ofText? response with
  | none => exact Or.inl ⟨rfl, rfl⟩
  | some value => exact Or.inr ⟨value, rfl, rfl⟩

/-- A value as deep as a text may be is spelled by a text of that depth. -/
theorem textHasDepth_of_value {response : String} (deep : ValueHasDepth response maxDepth) :
    TextHasDepth response maxDepth := by
  obtain ⟨value, spells, isDeep⟩ := deep
  obtain ⟨tree, written, read⟩ := Option.bind_eq_some_iff.mp spells
  obtain ⟨valueDeep, treeDeep⟩ := depths_of_value? tree maxDepth value read
  have isRead := Option.isSome_iff_exists.mpr ⟨value, read⟩
  exact ⟨tree, written, Nat.le_antisymm treeDeep (isDeep ▸ valueDeep), isRead⟩

/-- An answer is read from its text unless its value leaves no level of nesting to the frame. -/
theorem ofText?_answer (number : UInt64) {response : String}
    (floatFree : ∀ value, Json.ofText? response = some value → value.FloatFree)
    (fits : ¬ ValueHasDepth response maxDepth) :
    ofText? (answer number response).text = some (answer number response) := by
  rcases answer_cases number response with ⟨-, isText⟩ | ⟨value, spells, isValue⟩
  · rw [isText]
    exact ofText?_text trivial trivial (show 0 < maxDepth by decide)
  · have notFull : value.depth ≠ maxDepth := fun full => fits ⟨value, spells, full⟩
    have within : value.depth ≤ maxDepth := depth_of_ofText? spells
    rw [isValue]
    exact ofText?_text (normal_of_ofText? spells) (floatFree value spells)
      (Nat.lt_of_le_of_ne within notFull)

private theorem ofText?_answer_of_full (number : UInt64) {response : String}
    (floatFree : ∀ value, Json.ofText? response = some value → value.FloatFree)
    (full : ValueHasDepth response maxDepth) : ofText? (answer number response).text = none := by
  obtain ⟨value, spells, deep⟩ := full
  have isValue : answer number response = .ack number value := by
    rw [answer, spells, Option.getD_some]
  rw [isValue]
  exact ofText?_text_of_deep (floatFree value spells) (Nat.le_of_eq deep.symm)

/-- Every frame without floats is read from its own text as what it is. Only the answer to a
response that spells a value of 127 levels, as many as a text may have, is refused; the response is
then itself a text of 127 levels. Envelopes are carried by answers as they were written. -/
theorem outbound_read_back :
    (∀ (number : UInt64) (response : String),
      (∀ value, Json.ofText? response = some value → value.FloatFree) →
        (¬ ValueHasDepth response 127 →
          ofText? (answer number response).text = some (answer number response)) ∧
        (ValueHasDepth response 127 →
          ofText? (answer number response).text = none ∧ TextHasDepth response 127)) ∧
    (∀ (name : String) (data : Json), data.Normal → data.FloatFree → data.depth ≤ 126 →
      ofText? (event name data).text = some (event name data)) ∧
    ∀ (number : UInt64) (message : String),
      (∃ data, answer number (ackOk message) = .ack number data ∧
        AckEnvelope.ofTree? data.tree = some ⟨0, message⟩) ∧
      ∃ data, answer number (ackError message) = .ack number data ∧
        AckEnvelope.ofTree? data.tree = some ⟨1, message⟩ := by
  refine ⟨?_, ?_, ?_⟩
  · intro number response floatFree
    exact ⟨ofText?_answer number floatFree, fun deep =>
      ⟨ofText?_answer_of_full number floatFree deep, textHasDepth_of_value deep⟩⟩
  · intro name data normal floatFree deep
    exact ofText?_text normal floatFree (Nat.lt_of_le_of_lt deep (by decide))
  · intro number message
    exact ⟨⟨_, answer_ackOk number message, AckEnvelope.ofTree?_value _⟩,
      ⟨_, answer_ackError number message, AckEnvelope.ofTree?_value _⟩⟩

/-- A value of so many levels. -/
def tower : Nat → Json
  | 0 => .string "\x00 \"\\\" 😀"
  | levels + 1 => .object [("a\nb", tower levels)]

private theorem depth_tower (levels : Nat) : (tower levels).depth = levels := by
  induction levels with
  | zero => rfl
  | succ levels inductionHypothesis => simp [tower, depth, fieldsDepth, inductionHypothesis]

private theorem normal_tower (levels : Nat) : (tower levels).Normal := by
  induction levels with
  | zero => trivial
  | succ levels inductionHypothesis =>
    exact ⟨List.pairwise_singleton _ _, inductionHypothesis, trivial⟩

private theorem floatFree_tower (levels : Nat) : (tower levels).FloatFree := by
  induction levels with
  | zero => trivial
  | succ levels inductionHypothesis => exact ⟨inductionHypothesis, trivial⟩

private theorem ofText?_tower {levels : Nat} (deep : levels ≤ maxDepth) :
    Json.ofText? (tower levels).compact = some (tower levels) :=
  Json.ofText?_compact (normal_tower levels) (floatFree_tower levels)
    (by rw [depth_tower]; exact deep)

/-- The text of such a value spells no other one. -/
private theorem eq_tower {levels : Nat} {value : Json} (deep : levels ≤ maxDepth)
    (spells : Json.ofText? (tower levels).compact = some value) : tower levels = value :=
  Option.some.inj ((ofText?_tower deep).symm.trans spells)

theorem tower_read_back :
    ofText? (answer 0xffffffffffffffff (tower 126).compact).text =
        some (.ack 0xffffffffffffffff (tower 126)) ∧
      ofText? (answer 0 (tower 127).compact).text = none ∧
      ofText? (event "" (tower 126)).text = some (event "" (tower 126)) := by
  obtain ⟨answers, events, -⟩ := outbound_read_back
  have within : 126 ≤ maxDepth := by decide
  have floatFree : ∀ levels ≤ maxDepth, ∀ value,
      Json.ofText? (tower levels).compact = some value → value.FloatFree :=
    fun levels deep value spells => eq_tower deep spells ▸ floatFree_tower levels
  refine ⟨?_, ?_, ?_⟩
  · have notFull : ¬ ValueHasDepth (tower 126).compact 127 := by
      rintro ⟨value, spells, deep⟩
      rw [← eq_tower within spells, depth_tower] at deep
      omega
    have isAnswer : answer 0xffffffffffffffff (tower 126).compact =
        .ack 0xffffffffffffffff (tower 126) := by
      rw [answer, ofText?_tower within, Option.getD_some]
    rw [← isAnswer]
    exact (answers _ _ (floatFree 126 within)).1 notFull
  · have full : ValueHasDepth (tower 127).compact 127 :=
      ⟨tower 127, ofText?_tower (Nat.le_refl 127), depth_tower 127⟩
    exact ((answers _ _ (floatFree 127 (Nat.le_refl 127))).2 full).1
  · exact events "" _ (normal_tower 126) (floatFree_tower 126) (Nat.le_of_eq (depth_tower 126))

/-- Two members with one key: the first is 126 levels deep, and the second replaces it. -/
def overwritten : List (String × Json) := [("a", tower 126), ("a", .bool true)]

private theorem ofFields_overwritten : ofFields overwritten = .object [("a", .bool true)] := by
  simp [overwritten, ofFields, insertField]

/-- A text of 127 levels need not leave its answer without a level: here the deep member is
replaced. -/
theorem overwritten_read_back :
    TextHasDepth (Json.object overwritten).compact 127 ∧
      Json.ofText? (Json.object overwritten).compact = some (.object [("a", .bool true)]) ∧
      (Json.object [("a", .bool true)]).FloatFree ∧
      ofText? (answer 7 (Json.object overwritten).compact).text =
        some (.ack 7 (.object [("a", .bool true)])) := by
  have floatFree : FieldsFloatFree overwritten := ⟨floatFree_tower 126, trivial, trivial⟩
  have deep : fieldsDepth overwritten = 126 := by
    simp [overwritten, fieldsDepth, depth_tower, depth]
  have written : Tree.ofChars? (Json.object overwritten).compact.toList =
      some (Json.object overwritten).tree := @ofChars?_compact (.object overwritten) floatFree
  have read : (Json.object overwritten).tree.value? maxDepth =
      some (.object [("a", .bool true)]) := by
    rw [← ofFields_overwritten]
    exact value?_record ⟨normal_tower 126, trivial, trivial⟩ floatFree (by rw [deep]; decide)
  have spells : Json.ofText? (Json.object overwritten).compact =
      some (.object [("a", .bool true)]) := by
    rw [Json.ofText?, written, Option.bind_eq_bind, Option.bind_some, read]
  have isRead := Option.isSome_iff_exists.mpr ⟨_, read⟩
  refine ⟨⟨_, written, ?_, isRead⟩, spells, ⟨trivial, trivial⟩, ?_⟩
  · rw [depth_tree, depth, deep]
  · rw [answer, spells, Option.getD_some]
    exact ofText?_text ⟨List.pairwise_singleton _ _, trivial, trivial⟩ ⟨trivial, trivial⟩
      (show 1 < maxDepth by decide)

end ServerFrame

end SocketGateway
