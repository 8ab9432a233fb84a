/-!
Contract: the command line of the server program.

Owns:
- the options, their spellings and their defaults;
- reading arguments from left to right, where the first problem or the first call for help decides;
- the help text and the wording of every problem.

An option that stands apart from its value takes effect when the next option or the end is reached.
Until then an argument that fits nowhere is the first problem.

Does not own: what the program does with the options.
-/

namespace SocketGateway.CommandLine

inductive Setting where
  | host
  | port
  | config
deriving DecidableEq, Repr

/-- An option as problems name it. -/
def Setting.usage : Setting → String
  | .host => "--host <HOST>"
  | .port => "--port <PORT>"
  | .config => "--config <CONFIG>"

inductive Flag where
  | setting (setting : Setting)
  | help
deriving DecidableEq, Repr

def Flag.ofName? : String → Option Flag
  | "host" => some (.setting .host)
  | "port" => some (.setting .port)
  | "config" => some (.setting .config)
  | "help" => some .help
  | _ => none

def Flag.ofLetter? : Char → Option Flag
  | 'H' => some (.setting .host)
  | 'p' => some (.setting .port)
  | 'c' => some (.setting .config)
  | 'h' => some .help
  | _ => none

inductive PortFault where
  | empty
  | invalidDigit
  /-- It is beyond a signed 64-bit word, in the positive direction or not. -/
  | overflow (positive : Bool)
  | outOfRange (value : Int)
deriving DecidableEq, Repr

def PortFault.message : PortFault → String
  | .empty => "cannot parse integer from empty string"
  | .invalidDigit => "invalid digit found in string"
  | .overflow true => "number too large to fit in target type"
  | .overflow false => "number too small to fit in target type"
  | .outOfRange value => toString value ++ " is not in 0..=65535"

inductive Problem where
  | unexpectedArgument (argument : String)
  /-- The call for help came with a value. -/
  | unexpectedValue (value : String)
  | missingValue (setting : Setting)
  | repeated (setting : Setting)
  | invalidPort (value : String) (fault : PortFault)
deriving DecidableEq, Repr

def Problem.message : Problem → String
  | .unexpectedArgument argument => "error: unexpected argument '" ++ argument ++ "' found"
  | .unexpectedValue value =>
    "error: unexpected value '" ++ value ++ "' for '--help' found; no more were expected"
  | .missingValue setting =>
    "error: a value is required for '" ++ setting.usage ++ "' but none was supplied"
  | .repeated setting =>
    "error: the argument '" ++ setting.usage ++ "' cannot be used multiple times"
  | .invalidPort value fault =>
    "error: invalid value '" ++ value ++ "' for '" ++ Setting.port.usage ++ "': " ++ fault.message

structure Given where
  host : Option String := none
  port : Option Nat := none
  config : Option String := none
deriving DecidableEq, Repr

def Given.has (given : Given) : Setting → Bool
  | .host => given.host.isSome
  | .port => given.port.isSome
  | .config => given.config.isSome

structure Options where
  host : String := "127.0.0.1"
  port : Nat := 8080
  config : String := "wsio.toml"
deriving DecidableEq, Repr

/-- The options, with the defaults for those that were not given. -/
def Given.options (given : Given) : Options :=
  let defaults : Options := {}
  { host := given.host.getD defaults.host
    port := given.port.getD defaults.port
    config := given.config.getD defaults.config }

/-- Reads decimal digits onto `n`, as long as the number stays within `limit`. -/
def readDigits (positive : Bool) (limit : Nat) : List Char → Nat → Except PortFault Nat
  | [], n => .ok n
  | c :: rest, n =>
    if '0' ≤ c ∧ c ≤ '9' then
      let next := n * 10 + (c.toNat - 48)
      if limit < next then .error (.overflow positive) else readDigits positive limit rest next
    else .error .invalidDigit

def readInteger : List Char → Except PortFault Int
  | [] => .error .empty
  | ['+'] => .error .invalidDigit
  | ['-'] => .error .invalidDigit
  | '+' :: digits => (readDigits true 0x7fffffffffffffff digits 0).map Int.ofNat
  | '-' :: digits =>
    (readDigits false 0x8000000000000000 digits 0).map fun value => -Int.ofNat value
  | digits => (readDigits true 0x7fffffffffffffff digits 0).map Int.ofNat

def readPort (text : String) : Except PortFault Nat := do
  let value ← readInteger text.toList
  if 0 ≤ value ∧ value ≤ 65535 then return value.toNat else throw (.outOfRange value)

/-- Gives an option its value. It must not have one yet. -/
def Given.accept (given : Given) (setting : Setting) (value : String) : Except Problem Given :=
  if given.has setting then .error (.repeated setting)
  else
    match setting with
    | .host => .ok { given with host := some value }
    | .port =>
      match readPort value with
      | .ok port => .ok { given with port := some port }
      | .error fault => .error (.invalidPort value fault)
    | .config =>
      if value = "" then .error (.missingValue .config)
      else .ok { given with config := some value }

/-- What was read so far: the values given, and the option that stood apart from its value, with the
value once that was read. -/
structure Progress where
  given : Given := {}
  waiting : Option (Setting × Option String) := none
deriving DecidableEq, Repr

/-- Lets the option that waits take effect. -/
def Progress.settle (progress : Progress) : Except Problem Given :=
  match progress.waiting with
  | none => .ok progress.given
  | some (setting, none) => .error (.missingValue setting)
  | some (setting, some value) => progress.given.accept setting value

inductive Verdict where
  | help
  | goOn (progress : Progress)
deriving DecidableEq, Repr

/-- Reads an option; `value` is the text attached to it. -/
def readFlag (progress : Progress) (value : Option String) : Flag → Except Problem Verdict
  | .help =>
    match value with
    | some text => .error (.unexpectedValue text)
    | none => progress.settle.map fun _ => .help
  | .setting setting => do
    let given ← progress.settle
    match value with
    | some text => return .goOn { given := ← given.accept setting text }
    | none => return .goOn { given := given, waiting := some (setting, none) }

/-- Reads an argument that begins with two dashes, given without them. -/
def readLong (progress : Progress) (argument : List Char) : Except Problem Verdict :=
  let name := String.ofList (argument.takeWhile (· ≠ '='))
  let value :=
    match argument.dropWhile (· ≠ '=') with
    | [] => none
    | _ :: rest => some (String.ofList rest)
  match Flag.ofName? name with
  | some flag => readFlag progress value flag
  | none => .error (.unexpectedArgument ("--" ++ name))

/-- Reads an argument that begins with one dash, given without it. The call for help ends the
reading, and any other option takes the rest of the argument as its value. -/
def readShort (progress : Progress) (letter : Char) (rest : List Char) :
    Except Problem Verdict :=
  match Flag.ofLetter? letter with
  | none => .error (.unexpectedArgument (String.ofList ['-', letter]))
  | some .help => readFlag progress none .help
  | some flag =>
    readFlag progress
      (match rest with
        | [] => none
        | '=' :: value => some (String.ofList value)
        | value => some (String.ofList value))
      flag

/-- Reads an argument that is no option: the value of the option that waits for one. -/
def readPlain (progress : Progress) (argument : String) : Except Problem Verdict :=
  match progress.waiting with
  | some (setting, none) => .ok (.goOn { progress with waiting := some (setting, some argument) })
  | _ => .error (.unexpectedArgument argument)

def readArgument (progress : Progress) (argument : String) : Except Problem Verdict :=
  match argument.toList with
  | '-' :: '-' :: rest => readLong progress rest
  | '-' :: letter :: rest => readShort progress letter rest
  | _ => readPlain progress argument

inductive Command where
  | help
  | serve (options : Options)
deriving DecidableEq, Repr

/-- Reads the arguments that are left. Nothing may follow two dashes that stand alone. -/
def readAll (progress : Progress) : List String → Except Problem Command
  | [] => progress.settle.map fun given => .serve given.options
  | "--" :: [] => progress.settle.map fun given => .serve given.options
  | "--" :: argument :: _ => .error (.unexpectedArgument argument)
  | argument :: rest =>
    match readArgument progress argument with
    | .error problem => .error problem
    | .ok .help => .ok .help
    | .ok (.goOn next) => readAll next rest

def parse (arguments : List String) : Except Problem Command := readAll {} arguments

example : (parse ["-p1", "--config=a.toml"]).toOption
    = some (.serve { port := 1, config := "a.toml" }) := by decide +kernel

/-- The answer to a call for help. -/
def helpText : String :=
  "Socket gateway server\n\n" ++
  "Usage: wsio-server [OPTIONS]\n\n" ++
  "Options:\n" ++
  "  -H, --host <HOST>      Host address to bind the server to [default: 127.0.0.1]\n" ++
  "  -p, --port <PORT>      Port number to bind the server to [default: 8080]\n" ++
  "  -c, --config <CONFIG>  TOML file with a `[wsio]` table [default: wsio.toml]\n" ++
  "  -h, --help             Print help"

end SocketGateway.CommandLine
