import Std.Time.DateTime.Timestamp
import SocketGateway.Program
import SocketGateway.Script.Network

/-!
Contract: the server program.

Owns:
- looking up the settings file, and writing what the start of the program answers;
- serving peers that speak through the standard streams: every input line describes one action as
  JSON, and every output line reports the turn in which it was done.

The end of the input stops the program.

Does not own: how the program starts, or what an action does.
-/

namespace SocketGateway.Main

def lookUp (path : String) : IO PathContent := do
  try
    return .file (← IO.FS.readBinFile path)
  catch cause =>
    match cause with
    | .noFileOrDirectory .. => return .missing
    | .inappropriateType .. => return .directory
    | other => throw other

/-- What a command line finds around the program. -/
def surroundings (arguments : List String) : IO Program.Surroundings := do
  let content ←
    match CommandLine.parse arguments with
    | .ok (.serve options) => lookUp options.config
    | _ => pure .missing
  return { contentAt := fun _ => content, isTaken := fun _ => false }

def setTime (network : Network) (time : Int64) : Network :=
  { network with
    server := { network.server with
      gateway := { network.server.gateway with clock := .fixed time } } }

/-- Serves the actions of the input lines. -/
partial def serve (input output : IO.FS.Stream) (network : Network) : IO Unit := do
  let line ← input.getLine
  if line.isEmpty then return
  match (Json.ofText? line).bind Script.action? with
  | none =>
    output.putStrLn (Report.bareRefusal "UnknownAction").compact
    output.flush
    serve input output network
  | some action =>
    let time ← Std.Time.Timestamp.now
    let shown := setTime network (Int64.ofInt time.toNanosecondsSinceUnixEpoch.val)
    let result := shown.turn action
    output.putStrLn (Report.turn result).compact
    output.flush
    serve input output result.2

def run (arguments : List String) : IO UInt32 := do
  let start := Program.start (← surroundings arguments) arguments
  match start with
  | .help => IO.println CommandLine.helpText
  | .misused problem => IO.eprintln problem.message
  | .failed error => IO.eprintln error
  | .serving _ config =>
    IO.eprintln Program.startedLine
    serve (← IO.getStdin) (← IO.getStdout)
      (.start config (.fixed 0) {} StockHandler.demo)
    IO.eprintln Program.stoppedLine
  return UInt32.ofNat start.exitCode

end SocketGateway.Main

def main (arguments : List String) : IO UInt32 := SocketGateway.Main.run arguments
