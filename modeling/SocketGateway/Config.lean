import SocketGateway.Text.Blank

/-!
Contract: the settings of a gateway.

Owns:
- the settings and their defaults;
- which settings a gateway can run with;
- the spellings under which files name the settings, and the settings that such fields give;
- the path at which sockets connect.

Does not own: the formats of the files.
-/

namespace SocketGateway

/-- The settings of a gateway; times are in seconds. -/
structure Config where
  /-- The first segment of every path of this gateway. -/
  appName : String := "wsio"
  interval : Nat := 30
  /-- The silence after which a heartbeat ends a session. -/
  timeout : Nat := 60
  maxConnections : Nat := 200000
  optionRequired : Bool := false
  /-- What the author header must start with for the token header to count. -/
  authPrefix : String := "WingSIO"
  /-- How long an authenticated handshake waits for its connect event. -/
  pendingTtl : Nat := 30
  /-- How long further connect events of a handshake count as repeated. -/
  onceBoundTtl : Nat := 5
deriving DecidableEq, Repr, Inhabited

/-- A setting with which no gateway can run. -/
inductive SettingFault where
  | appName (name : String)
  | intervalZero
  | timeoutShort (timeout interval : Nat)
  | noConnections
deriving DecidableEq, Repr

def SettingFault.message : SettingFault → String
  | .appName name => "app_name '" ++ name ++ "' must be a non-empty path segment"
  | .intervalZero => "interval must be positive"
  | .timeoutShort timeout interval =>
    "timeout (" ++ toString timeout ++ "s) must be larger than interval ("
      ++ toString interval ++ "s)"
  | .noConnections => "max_connections must be positive"

inductive ReadFault where
  | isDirectory
  | invalidText
deriving DecidableEq, Repr

def ReadFault.message : ReadFault → String
  | .isDirectory => "Is a directory (os error 21)"
  | .invalidText => "stream did not contain valid UTF-8"

/-- Why there are no settings. -/
inductive ConfigError where
  | unreadable (fault : ReadFault)
  /-- The text is not in its format, or a setting has a value of the wrong kind. -/
  | malformed
  | invalid (fault : SettingFault)
deriving DecidableEq, Repr

/-- The wording of an invalid setting, for any reason. -/
def ConfigError.invalidMessage (reason : String) : String := "invalid config: " ++ reason

namespace Config

/-- Finds the first fault of the settings: the name, the interval, the timeout, the limit. -/
def fault? (config : Config) : Option SettingFault :=
  if Text.isBlank config.appName || config.appName.toList.contains '/' then
    some (.appName config.appName)
  else if config.interval = 0 then some .intervalZero
  else if config.timeout ≤ config.interval then some (.timeoutShort config.timeout config.interval)
  else if config.maxConnections = 0 then some .noConnections
  else none

def validate (config : Config) : Except ConfigError Config :=
  match config.fault? with
  | none => .ok config
  | some fault => .error (.invalid fault)

def socketPath (config : Config) : String := "/" ++ config.appName ++ "/socket.io"

/-- The spellings of the settings, in the order in which a list gives them. -/
def spellings : List (List String) :=
  [["app_name"], ["interval"], ["timeout"], ["max_connections"], ["optinal", "optional"],
   ["auth_prefix"], ["pending_ttl"], ["once_bound_ttl"]]

/-- How a file format reads the value of a setting. -/
structure SettingReader (α : Type) where
  text? : α → Option String
  natural? : α → Option Nat
  flag? : α → Option Bool

def setting? {α β : Type} (read : α → Option β) (default : β) : Option α → Option β
  | none => some default
  | some value => read value

/-- The settings that these values give, in the order of `spellings`; a missing one has its
default. -/
def ofSettings? {α : Type} (reader : SettingReader α) : List (Option α) → Option Config
  | [appName, interval, timeout, maxConnections, optionRequired, authPrefix, pendingTtl,
      onceBoundTtl] => do
    let defaults : Config := {}
    return {
      appName := ← setting? reader.text? defaults.appName appName
      interval := ← setting? reader.natural? defaults.interval interval
      timeout := ← setting? reader.natural? defaults.timeout timeout
      maxConnections := ← setting? reader.natural? defaults.maxConnections maxConnections
      optionRequired := ← setting? reader.flag? defaults.optionRequired optionRequired
      authPrefix := ← setting? reader.text? defaults.authPrefix authPrefix
      pendingTtl := ← setting? reader.natural? defaults.pendingTtl pendingTtl
      onceBoundTtl := ← setting? reader.natural? defaults.onceBoundTtl onceBoundTtl }
  | _ => none

end Config

end SocketGateway
