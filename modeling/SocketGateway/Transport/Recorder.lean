import Std.Data.TreeMap
import SocketGateway.Journal
import SocketGateway.Transport

/-!
Contract: a transport that records its calls.

Owns:
- the recording: the journal of the calls, and the rooms in which each connection is;
- planned refusals of calls;
- the transport over recordings, in which a disconnect has no effect but its entry.

It stands in for a network wherever calls are to be observed one by one.

Does not own: the calls of hooks and handlers, which may be noted in the same journal.
-/

namespace SocketGateway

/-- The calls that a connection can be told to refuse. -/
inductive CallKind where
  | emit
  | join
  | leave
  | broadcast
deriving DecidableEq, Repr

/-- That calls of a kind are refused, all of them or those with one event or room. -/
structure Refusal where
  call : CallKind
  argument : Option String := none
  cause : TransportError
deriving DecidableEq, Repr

/-- What was recorded: the calls, and the rooms of each connection by its label. -/
structure Recording where
  journal : Journal := []
  rooms : Std.TreeMap String (List String) := ∅

namespace Recording

def note (entry : Entry) (recording : Recording) : Recording :=
  { recording with journal := recording.journal ++ [entry] }

def roomsOf (recording : Recording) (label : String) : List String :=
  recording.rooms.getD label []

def setRooms (recording : Recording) (label : String) (rooms : List String) : Recording :=
  { recording with rooms := recording.rooms.insert label rooms }

/-- The answer of a call: the cause of the first refusal that fits it, if there is one. -/
def answer (refusals : List Refusal) (call : CallKind) (argument : String) :
    Except TransportError Unit :=
  match refusals.find? fun refusal =>
      refusal.call = call && (refusal.argument.isNone || refusal.argument = some argument) with
  | some refusal => .error refusal.cause
  | none => .ok ()

/-- The rooms after joining one: it comes last, unless it is among them already. -/
def joined (room : String) (rooms : List String) : List String :=
  if room ∈ rooms then rooms else rooms ++ [room]

/-- The transport that records. `refusals` gives the planned refusals of a connection by its label;
a refused call is recorded, but has no other effect. -/
def transport (refusals : String → List Refusal) : Transport Recording where
  emit := fun connection event data recording =>
    (answer (refusals connection.label) .emit event,
      recording.note (.emit connection.label event data))
  join := fun connection room recording =>
    let label := connection.label
    let noted := recording.note (.join label room)
    match answer (refusals label) .join room with
    | .error cause => (.error cause, noted)
    | .ok () => (.ok (), noted.setRooms label (joined room (noted.roomsOf label)))
  leave := fun connection room recording =>
    let label := connection.label
    let noted := recording.note (.leave label room)
    match answer (refusals label) .leave room with
    | .error cause => (.error cause, noted)
    | .ok () => (.ok (), noted.setRooms label ((noted.roomsOf label).filter (· ≠ room)))
  rooms := fun connection recording => recording.roomsOf connection.label
  broadcast := fun connection room event data recording =>
    (answer (refusals connection.label) .broadcast room,
      recording.note (.broadcast connection.label room event data))
  disconnect := fun connection recording => recording.note (.disconnect connection.label)

end Recording

end SocketGateway
