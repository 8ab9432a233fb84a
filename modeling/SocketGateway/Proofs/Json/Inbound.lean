import SocketGateway.Proofs.Json.Records

/-!
Contract: inbound frames have a normal form.

Owns:
- that a frame is read from its own text, whose fields are event, data and acknowledgement number;
- that whatever text a frame was read from, its own text says the same, and stays as it is from
  then on.

Does not own: who answers a frame.
-/

namespace SocketGateway.ClientFrame

open Json

/-! ### Fields -/

/-- The names of the fields, in the order in which they are written. -/
def names : List (List String) := [["event"], ["data"], ["ack"]]

def fields (frame : ClientFrame) : List (String × Json) :=
  [("event", .string frame.event), ("data", frame.data)] ++
    frame.ack.toList.map fun number => ("ack", .ofWord number)

theorem text_eq (frame : ClientFrame) : frame.text = (recordTree frame.fields).compact := rfl

variable {frame : ClientFrame}

theorem fieldsFloatFree_fields (floatFree : frame.data.FloatFree) :
    FieldsFloatFree frame.fields := by
  rcases frame with ⟨event, data, _ | number⟩
  · exact ⟨trivial, floatFree, trivial⟩
  · exact ⟨trivial, floatFree, trivial, trivial⟩

/-- The fields are found where they were written; the last one is absent without a number. -/
theorem fields?_fields (frame : ClientFrame) :
    (Json.object frame.fields).tree.fields? names =
      some [some (Json.string frame.event).tree, some frame.data.tree,
        frame.ack.map fun number => (Json.ofWord number).tree] := by
  have different : "event" ≠ "data" ∧ "event" ≠ "ack" ∧ "data" ≠ "ack" := by decide +kernel
  obtain ⟨eventData, eventAck, dataAck⟩ := different
  rcases frame with ⟨event, data, _ | number⟩ <;>
    simp [names, fields, fields?_object, soleMember?, eventData, eventAck, dataAck,
      eventData.symm, eventAck.symm, dataAck.symm]

/-! ### The acknowledgement number -/

private theorem readAck?_ofWord (number : UInt64) :
    readAck? (Json.ofWord number).tree = some (some number) := by
  have word := word?_ofWord number
  rw [Json.ofWord, Json.tree] at word ⊢
  rw [readAck?, word, Option.map_some]
  exact nofun

/-- No number is read where no field is, or null. -/
theorem readAck?_eq_none {field : Option Tree} :
    optionalField readAck? none field = some none ↔ field = none ∨ field = some (.word .null) := by
  cases field with
  | none => simp [optionalField]
  | some field =>
    rw [optionalField]
    constructor
    · intro read
      unfold readAck? at read
      split at read
      · exact Or.inr rfl
      · obtain ⟨number, -, isNone⟩ := Option.map_eq_some_iff.mp read
        cases isNone
    · rintro (isNone | isNull)
      · cases isNone
      · cases isNull
        rfl

/-- The field of a text that holds the acknowledgement number, if there is one. -/
def ackField? (text : String) : Option Tree := do
  match ← (← Tree.ofChars? text.toList).fields? names with
  | [_, _, field] => field
  | _ => none

/-- The text asks for no answer: the number is not there, or null. -/
def AsksNothing (text : String) : Prop :=
  ackField? text = none ∨ ackField? text = some (.word .null)

/-! ### Reading -/

/-- A tree spells a frame when its fields do; `field` is the one of the acknowledgement number. -/
structure Spells (tree : Tree) (field : Option Tree) (frame : ClientFrame) : Prop where
  found : ∃ event data, tree.fields? names = some [some event, data, field] ∧
    event.string? = some frame.event ∧
    optionalField (Tree.value? (maxDepth - 1)) .null data = some frame.data
  ack : optionalField readAck? none field = some frame.ack

theorem Spells.ofTree? {tree : Tree} {field : Option Tree} (spells : Spells tree field frame) :
    ofTree? tree = some frame := by
  obtain ⟨⟨event, data, found, isEvent, isData⟩, isAck⟩ := spells
  rw [names] at found
  simp [ClientFrame.ofTree?, found, isEvent, isData, isAck]

/-- Whatever is read as a frame spells it. -/
theorem spells_of_ofTree? {tree : Tree} (read : ofTree? tree = some frame) :
    ∃ field, Spells tree field frame := by
  unfold ClientFrame.ofTree? at read
  obtain ⟨found, members, read⟩ := Option.bind_eq_some_iff.mp read
  split at read
  · next event data field =>
    simp only [Option.bind_eq_bind, Option.bind_eq_some_iff, Option.pure_def,
      Option.some.injEq] at read
    obtain ⟨name, isEvent, value, isData, number, isAck, rfl⟩ := read
    exact ⟨field, ⟨event, data, members, isEvent, isData⟩, isAck⟩
  · cases read

private theorem ackField?_of_spells {text : String} {tree : Tree} {field : Option Tree}
    (written : Tree.ofChars? text.toList = some tree) (spells : Spells tree field frame) :
    ackField? text = field := by
  obtain ⟨event, data, found, -⟩ := spells.found
  simp [ackField?, written, found]

/-- What is read from a text leaves a level of nesting to the frame, and the text asks for no
answer if the frame does not. -/
theorem read_of_ofText? {text : String} (read : ofText? text = some frame) :
    frame.data.Normal ∧ frame.data.depth < maxDepth ∧ (frame.ack = none ↔ AsksNothing text) := by
  obtain ⟨tree, written, readTree⟩ := Option.bind_eq_some_iff.mp read
  obtain ⟨field, spells⟩ := spells_of_ofTree? readTree
  obtain ⟨event, data, -, -, isData⟩ := spells.found
  have within : frame.data.Normal ∧ frame.data.depth < maxDepth := by
    cases data with
    | none =>
      rw [← Option.some.inj isData]
      exact ⟨trivial, by decide⟩
    | some data =>
      exact ⟨normal_of_value? data _ _ isData,
        Nat.lt_of_le_of_lt (depth_of_value? isData) (by decide)⟩
  refine ⟨within.1, within.2, ?_⟩
  rw [AsksNothing, ackField?_of_spells written spells, ← readAck?_eq_none, spells.ack,
    Option.some.injEq]

/-! ### Writing -/

/-- A frame is spelled by its own fields, if its data leaves a level of nesting to it. -/
theorem spells_fields (normal : frame.data.Normal) (floatFree : frame.data.FloatFree)
    (deep : frame.data.depth < maxDepth) :
    Spells (Json.object frame.fields).tree
      (frame.ack.map fun number => (Json.ofWord number).tree) frame where
  found := by
    refine ⟨_, _, fields?_fields frame, string?_string _, ?_⟩
    rw [optionalField]
    exact value?_tree _ _ normal floatFree (by omega)
  ack := by
    cases frame.ack with
    | none => rfl
    | some number => rw [Option.map_some, optionalField, readAck?_ofWord]

theorem ofText?_text (normal : frame.data.Normal) (floatFree : frame.data.FloatFree)
    (deep : frame.data.depth < maxDepth) : ofText? frame.text = some frame := by
  have written := ofChars?_record (fieldsFloatFree_fields floatFree)
  rw [text_eq, ofText?, written]
  exact (spells_fields normal floatFree deep).ofTree?

/-- The number of a frame is written if there is one. -/
theorem ackField?_text (normal : frame.data.Normal) (floatFree : frame.data.FloatFree)
    (deep : frame.data.depth < maxDepth) :
    ackField? frame.text = frame.ack.map fun number => (Json.ofWord number).tree :=
  ackField?_of_spells (ofChars?_record (fieldsFloatFree_fields floatFree))
    (spells_fields normal floatFree deep)

/-- Whatever text a frame without floats was read from, its own text is read as the same frame,
which is written in the same way again. The number is left out of it exactly where the text had no
number or null. Every frame whose data leaves a level of nesting to it is read from its own text. -/
theorem inbound_normal_form :
    (∀ (text : String) (frame : ClientFrame), ofText? text = some frame → frame.data.FloatFree →
      ofText? frame.text = some frame ∧
      (ofText? frame.text).map ClientFrame.text = some frame.text ∧
      (frame.ack = none ↔ AsksNothing text) ∧
      (ackField? frame.text = none ↔ AsksNothing text)) ∧
    ∀ frame : ClientFrame, frame.data.Normal → frame.data.FloatFree → frame.data.depth ≤ 126 →
      ofText? frame.text = some frame := by
  constructor
  · intro text frame read floatFree
    obtain ⟨normal, deep, asks⟩ := read_of_ofText? read
    have readAgain : ofText? frame.text = some frame := ofText?_text normal floatFree deep
    refine ⟨readAgain, by rw [readAgain, Option.map_some], asks, ?_⟩
    rw [ackField?_text normal floatFree deep, Option.map_eq_none_iff, asks]
  · intro frame normal floatFree deep
    exact ofText?_text normal floatFree (Nat.lt_of_le_of_lt deep (by decide))

/-- A frame as an array, with an escape, white space, a repeated key, and null for the number. -/
def arraySpelling : String :=
  " [\t\"jo\\u0069n\" ,\x7b\"b\":1, \"a\":-7,\n\"b\":[true] \x7d, null]"

theorem arraySpelling_normal_form :
    ∃ frame, ofText? arraySpelling = some frame ∧ frame.event = "join" ∧
      ofText? frame.text = some frame ∧ AsksNothing arraySpelling ∧
      ackField? frame.text = none := by
  have reads : (ofText? arraySpelling).any (fun frame =>
      decide frame.data.FloatFree && frame.event = "join" && frame.ack = none) = true := by
    decide +kernel
  obtain ⟨frame, read, is⟩ := (Option.any_eq_true _ _).mp reads
  simp only [Bool.and_eq_true, decide_eq_true_eq] at is
  obtain ⟨⟨floatFree, isJoin⟩, noNumber⟩ := is
  obtain ⟨readAgain, -, asks, absent⟩ := inbound_normal_form.1 arraySpelling frame read floatFree
  exact ⟨frame, read, isJoin, readAgain, asks.mp noNumber, absent.mpr (asks.mp noNumber)⟩

end SocketGateway.ClientFrame
