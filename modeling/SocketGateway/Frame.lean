import SocketGateway.Json.Record

/-!
Contract: the frames that a socket carries.

Owns:
- inbound frames: an event, its data, and an acknowledgement number if an answer is wanted;
- outbound frames: acknowledgements and events;
- the envelope that acknowledgements carry;
- the text of each, and reading each from a text.

Does not own: who answers a frame, or how frames are queued.
-/

namespace SocketGateway

open Json (Tree)

/-- Spells the fields of a record in the given order. -/
def recordTree (fields : List (String × Json)) : Tree :=
  .object (Json.fieldsTree fields)

def Json.ofWord (word : UInt64) : Json := .integer (.ofUInt64 word)

/-- What a peer sends: `ack` is the number under which it wants an answer. -/
structure ClientFrame where
  event : String
  data : Json := .null
  ack : Option UInt64 := none

namespace ClientFrame

def readAck? : Tree → Option (Option UInt64)
  | .word .null => some none
  | tree => tree.word?.map some

def ofTree? (tree : Tree) : Option ClientFrame := do
  match ← tree.fields? [["event"], ["data"], ["ack"]] with
  | [some event, data, ack] =>
    return {
      event := ← event.string?
      data := ← Json.optionalField (Tree.value? (Json.maxDepth - 1)) .null data
      ack := ← Json.optionalField readAck? none ack }
  | _ => none

/-- Reads a frame. Only the event is required. -/
def ofText? (text : String) : Option ClientFrame := do
  ofTree? (← Tree.ofChars? text.toList)

/-- The tree of a frame; an absent acknowledgement number is not written. -/
def tree (frame : ClientFrame) : Tree :=
  recordTree ([("event", .string frame.event), ("data", frame.data)]
    ++ frame.ack.toList.map fun number => ("ack", .ofWord number))

def text (frame : ClientFrame) : String := frame.tree.compact

end ClientFrame

/-- What the gateway sends. -/
inductive ServerFrame where
  /-- The answer to the inbound frame with that acknowledgement number. -/
  | ack (number : UInt64) (data : Json)
  | event (name : String) (data : Json)

namespace ServerFrame

/-- The answer that carries a response: a JSON text is embedded as the value it spells, and any
other text as a string. -/
def answer (number : UInt64) (response : String) : ServerFrame :=
  .ack number ((Json.ofText? response).getD (.string response))

def ackOfTree? (tree : Tree) : Option ServerFrame := do
  match ← tree.namedFields? [["ack"], ["data"]] with
  | [some number, some data] =>
    return .ack (← number.word?) (← data.value? (Json.maxDepth - 1))
  | _ => none

def eventOfTree? (tree : Tree) : Option ServerFrame := do
  match ← tree.namedFields? [["event"], ["data"]] with
  | [some name, some data] =>
    return .event (← name.string?) (← data.value? (Json.maxDepth - 1))
  | _ => none

/-- Reads a frame. The whole text must spell a value; it is an acknowledgement if it has the fields
of one, and otherwise an event. -/
def ofText? (text : String) : Option ServerFrame := do
  let tree ← Tree.ofChars? text.toList
  let _ ← tree.value? Json.maxDepth
  ackOfTree? tree <|> eventOfTree? tree

def tree : ServerFrame → Tree
  | .ack number data => recordTree [("ack", .ofWord number), ("data", data)]
  | .event name data => recordTree [("event", .string name), ("data", data)]

def text (frame : ServerFrame) : String := frame.tree.compact

end ServerFrame

/-- The body of an acknowledgement. -/
structure AckEnvelope where
  state : UInt8
  message : String
deriving DecidableEq, Repr

namespace AckEnvelope

def succeeded : UInt8 := 0

def failed : UInt8 := 1

def ofTree? (tree : Tree) : Option AckEnvelope := do
  match ← tree.fields? [["state"], ["message"]] with
  | [some state, some message] =>
    return ⟨UInt8.ofNat (← state.natural? 256), ← message.string?⟩
  | _ => none

def ofText? (text : String) : Option AckEnvelope := do
  ofTree? (← Tree.ofChars? text.toList)

def stateValue (envelope : AckEnvelope) : Json :=
  .ofWord envelope.state.toUInt64

/-- The text of an envelope with its fields in their own order. -/
def text (envelope : AckEnvelope) : String :=
  (recordTree [("state", envelope.stateValue), ("message", .string envelope.message)]).compact

/-- The envelope as a JSON object, whose fields stand in order of their keys. -/
def value (envelope : AckEnvelope) : Json :=
  .ofFields [("state", envelope.stateValue), ("message", .string envelope.message)]

end AckEnvelope

/-- The response of a handler that succeeded. -/
def ackOk (message : String) : String :=
  (AckEnvelope.value ⟨AckEnvelope.succeeded, message⟩).compact

/-- The response in place of a handler that did not run or failed. -/
def ackError (message : String) : String :=
  (AckEnvelope.value ⟨AckEnvelope.failed, message⟩).compact

/-- A client that is idle and the time since when, as the listing of idle clients writes it. -/
structure IdleNotice where
  clientId : String
  idleSince : String
deriving DecidableEq, Repr

namespace IdleNotice

/-- Reads a notice; both fields are required. -/
def ofText? (text : String) : Option IdleNotice := do
  match ← (← Tree.ofChars? text.toList).fields? [["client_id"], ["idle_since"]] with
  | [some clientId, some idleSince] => return ⟨← clientId.string?, ← idleSince.string?⟩
  | _ => none

def tree (notice : IdleNotice) : Tree :=
  recordTree [("client_id", .string notice.clientId), ("idle_since", .string notice.idleSince)]

def text (notice : IdleNotice) : String := notice.tree.compact

end IdleNotice

end SocketGateway
