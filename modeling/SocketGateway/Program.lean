import SocketGateway.CommandLine
import SocketGateway.Config.File

/-!
Contract: how the server program starts and stops.

Owns:
- starting: the command line first, then the settings file, then the port;
- the error that is logged when the program cannot start, and its exit code;
- what is logged while it stops.

Does not own: looking up files and ports.
-/

namespace SocketGateway.Program

open CommandLine (Problem Options)

/-- What a program finds around it: files, and ports that others have taken. -/
structure Surroundings where
  contentAt : String → PathContent
  isTaken : Nat → Bool

inductive Start where
  | help
  | misused (problem : Problem)
  /-- The program gave up after it logged this error. -/
  | failed (error : String)
  | serving (options : Options) (config : Config)

/-- Why there are no settings, as the log says it. Where the file is not in its format, the place
and the reason stand on lines of their own. -/
def reasonOf : ConfigError → String
  | .unreadable fault => " failed to read config file: " ++ fault.message
  | .malformed => ""
  | .invalid fault => " " ++ ConfigError.invalidMessage fault.message

def start (surroundings : Surroundings) (arguments : List String) : Start :=
  match CommandLine.parse arguments with
  | .error problem => .misused problem
  | .ok .help => .help
  | .ok (.serve options) =>
    match Config.load (surroundings.contentAt options.config) with
    | .error cause => .failed ("Failed to load " ++ options.config ++ ":" ++ reasonOf cause)
    | .ok config =>
      if surroundings.isTaken options.port then .failed "Server error"
      else .serving options config

/-- The exit code of a program that started that way, once it stops. -/
def Start.exitCode : Start → Nat
  | .help => 0
  | .misused _ => 2
  | .failed _ => 1
  | .serving _ _ => 0

inductive StopSignal where
  | terminate
  | interrupt
deriving DecidableEq, Repr

/-- What is logged when the program has started. -/
def startedLine : String := "Press Ctrl+C to shutdown gracefully"

def StopSignal.line : StopSignal → String
  | .terminate => "Received terminate signal, shutting down"
  | .interrupt => "Received Ctrl+C, shutting down"

/-- What is logged when the program is about to end. -/
def stoppedLine : String := "Server shutdown complete"

end SocketGateway.Program
