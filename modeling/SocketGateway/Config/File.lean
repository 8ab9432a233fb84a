import SocketGateway.Config.Toml

/-!
Contract: settings read from files.

Owns:
- what stands at a path;
- the settings that a path gives, where a missing file gives the defaults.

Does not own: opening files.
-/

namespace SocketGateway

/-- What stands at a path. -/
inductive PathContent where
  | missing
  | directory
  | file (bytes : ByteArray)

/-- Reads the settings at a path. The bytes of a file must be UTF-8. -/
def Config.load : PathContent → Except ConfigError Config
  | .missing => .ok {}
  | .directory => .error (.unreadable .isDirectory)
  | .file bytes =>
    match String.fromUTF8? bytes with
    | none => .error (.unreadable .invalidText)
    | some text => Config.ofToml text

end SocketGateway
