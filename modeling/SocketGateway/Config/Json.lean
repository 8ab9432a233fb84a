import SocketGateway.Config
import SocketGateway.Json.Record

/-!
Contract: settings read from JSON texts and written to JSON.

Owns:
- the settings of a JSON record, which are not checked further;
- the JSON object of settings.

Does not own: when settings are fit for a gateway.
-/

namespace SocketGateway.Config

/-- How JSON trees give settings. -/
def jsonReader : SettingReader Json.Tree where
  text? := Json.Tree.string?
  natural? := Json.Tree.natural? UInt64.size
  flag? := Json.Tree.bool?

def ofJson? (text : String) : Option Config := do
  ofSettings? jsonReader (← (← Json.Tree.ofChars? text.toList).fields? spellings)

def toJson (config : Config) : Json :=
  .ofFields [
    ("app_name", .string config.appName),
    ("interval", .ofNat config.interval),
    ("timeout", .ofNat config.timeout),
    ("max_connections", .ofNat config.maxConnections),
    ("optinal", .bool config.optionRequired),
    ("auth_prefix", .string config.authPrefix),
    ("pending_ttl", .ofNat config.pendingTtl),
    ("once_bound_ttl", .ofNat config.onceBoundTtl)]

end SocketGateway.Config
