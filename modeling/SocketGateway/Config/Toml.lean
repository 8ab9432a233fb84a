import SocketGateway.Config
import SocketGateway.Toml.Document

/-!
Contract: settings read from TOML documents.

Owns:
- the name of the table that holds the settings;
- the settings of a table, of an array that lists them in order, and of a document without them.

Does not own: files.
-/

namespace SocketGateway.Config

def tableName : String := "wsio"

def tomlReader : SettingReader Toml.Value where
  text? := fun
    | .string value => some value
    | _ => none
  natural? := fun
    | .integer value => if 0 ≤ value then some value.toNat else none
    | _ => none
  flag? := fun
    | .bool value => some value
    | _ => none

/-- The one entry with a key among `spellings`, if there is one; two of them are refused. -/
def soleValue? (entries : Toml.Entries) (spellings : List String) :
    Option (Option Toml.Value) :=
  match entries.filter fun entry => spellings.contains entry.1 with
  | [] => some none
  | [entry] => some (some entry.2)
  | _ => none

/-- The settings of a table; entries that are no settings do not matter. -/
def ofEntries? (entries : Toml.Entries) : Option Config := do
  ofSettings? tomlReader (← spellings.mapM (soleValue? entries))

/-- The settings that a list gives in order. Missing ones have their defaults, and what comes after
the last one does not matter. -/
def ofItems? (items : List Toml.Value) : Option Config :=
  ofSettings? tomlReader ((List.range spellings.length).map fun index => items[index]?)

/-- The settings that a value gives. A date counts as a table without settings. -/
def ofTomlValue? : Toml.Value → Option Config
  | .table _ entries => ofEntries? entries
  | .array items => ofItems? items
  | .tables earlier last => ofItems? ((earlier ++ [last]).map (.table .header))
  | .date => some {}
  | _ => none

/-- The settings of a document. A document that does not speak of them gives the defaults. -/
def ofDocument? (entries : Toml.Entries) : Option Config :=
  match entries.lookup tableName with
  | none => some {}
  | some value => ofTomlValue? value

/-- Reads the settings of a TOML text; a gateway can run with them. -/
def ofToml (text : String) : Except ConfigError Config :=
  match Toml.ofText? text with
  | none => .error .malformed
  | some entries =>
    match ofDocument? entries with
    | none => .error .malformed
    | some config => config.validate

end SocketGateway.Config
