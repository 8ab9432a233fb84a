/-!
Contract: the four kinds of TOML strings.

Owns:
- basic and literal strings, on one line and on several;
- escapes, line endings inside strings, and the quotes that may stand before the closing ones.

A reader takes the text after the opening quotes and returns the string with what is left.

Does not own: where a string may stand.
-/

namespace SocketGateway.Toml

/-- A character that may stand for itself in a comment or a string, quotes and backslashes aside:
a tab, or any character from the space on that is not the delete character. -/
def isPlain (c : Char) : Bool :=
  c = '\t' || (0x20 ≤ c.toNat && c.toNat != 0x7f)

/-- The white space inside a line. -/
def isBlankChar (c : Char) : Bool := c = ' ' || c = '\t'

def hexDigit? (c : Char) : Option Nat :=
  if '0' ≤ c ∧ c ≤ '9' then some (c.toNat - 48)
  else if 'a' ≤ c ∧ c ≤ 'f' then some (c.toNat - 87)
  else if 'A' ≤ c ∧ c ≤ 'F' then some (c.toNat - 55)
  else none

/-- The character whose code point these hexadecimal digits name. -/
def codePoint? (digits : List Char) : Option Char := do
  let values ← digits.mapM hexDigit?
  let point := values.foldl (fun value digit => value * 16 + digit) 0
  if point < 0xd800 ∨ (0xdfff < point ∧ point < 0x110000) then some (Char.ofNat point) else none

/-- The character that a one-letter escape writes. -/
def letterEscape? : Char → Option Char
  | 'b' => some '\x08'
  | 't' => some '\t'
  | 'n' => some '\n'
  | 'f' => some '\x0c'
  | 'r' => some '\r'
  | '"' => some '"'
  | '\\' => some '\\'
  | _ => none

/-- Reads an escape after its backslash. -/
def readEscape? : List Char → Option (Char × List Char)
  | 'u' :: rest =>
    if rest.length < 4 then none
    else (codePoint? (rest.take 4)).map fun c => (c, rest.drop 4)
  | 'U' :: rest =>
    if rest.length < 8 then none
    else (codePoint? (rest.take 8)).map fun c => (c, rest.drop 8)
  | letter :: rest => (letterEscape? letter).map fun c => (c, rest)
  | [] => none

def readNewline? : List Char → Option (List Char)
  | '\n' :: rest => some rest
  | '\r' :: '\n' :: rest => some rest
  | _ => none

/-- Reads a basic string on one line. -/
def readBasic? : Nat → List Char → Option (List Char × List Char)
  | 0, _ => none
  | _, [] => none
  | limit + 1, c :: rest =>
    if c = '"' then some ([], rest)
    else if c = '\\' then do
      let (value, after) ← readEscape? rest
      let (text, left) ← readBasic? limit after
      return (value :: text, left)
    else if isPlain c then do
      let (text, left) ← readBasic? limit rest
      return (c :: text, left)
    else none

/-- Reads a literal string on one line. -/
def readLiteral? : List Char → Option (List Char × List Char)
  | [] => none
  | c :: rest =>
    if c = '\'' then some ([], rest)
    else if isPlain c then do
      let (text, left) ← readLiteral? rest
      return (c :: text, left)
    else none

/-- Skips white space and line endings. -/
def skipLines : List Char → List Char
  | '\r' :: '\n' :: rest => skipLines rest
  | c :: rest => if isBlankChar c || c = '\n' then skipLines rest else c :: rest
  | [] => []

/-- Skips the end of a line after a backslash, and the blank lines and indentation that follow. -/
def skipFolded? (cs : List Char) : Option (List Char) := do
  let after ← readNewline? (cs.dropWhile isBlankChar)
  return skipLines after

/-- Takes the quotes in front of `cs`. Three close the string; up to two more may stand before
them. Fewer than three are part of the text. -/
def closing? (quote : Char) (cs : List Char) : Option (Bool × List Char × List Char) :=
  let run := cs.takeWhile (· = quote)
  let rest := cs.dropWhile (· = quote)
  if run.length < 3 then some (false, run, rest)
  else if run.length ≤ 5 then some (true, run.drop 3, rest)
  else none

/-- Reads a basic string on several lines. -/
def readBasicLines? : Nat → List Char → Option (List Char × List Char)
  | 0, _ => none
  | _, [] => none
  | limit + 1, c :: rest =>
    if c = '"' then
      match closing? '"' (c :: rest) with
      | none => none
      | some (true, quotes, left) => some (quotes, left)
      | some (false, quotes, after) => do
        let (text, left) ← readBasicLines? limit after
        return (quotes ++ text, left)
    else if c = '\\' then
      -- a backslash folds lines if nothing but white space follows on its own
      match skipFolded? rest with
      | some after => readBasicLines? limit after
      | none => do
        let (value, after) ← readEscape? rest
        let (text, left) ← readBasicLines? limit after
        return (value :: text, left)
    else
      match readNewline? (c :: rest) with
      | some after => do
        let (text, left) ← readBasicLines? limit after
        return ('\n' :: text, left)
      | none =>
        if isPlain c then do
          let (text, left) ← readBasicLines? limit rest
          return (c :: text, left)
        else none

/-- Reads a literal string on several lines. -/
def readLiteralLines? : Nat → List Char → Option (List Char × List Char)
  | 0, _ => none
  | _, [] => none
  | limit + 1, c :: rest =>
    if c = '\'' then
      match closing? '\'' (c :: rest) with
      | none => none
      | some (true, quotes, left) => some (quotes, left)
      | some (false, quotes, after) => do
        let (text, left) ← readLiteralLines? limit after
        return (quotes ++ text, left)
    else
      match readNewline? (c :: rest) with
      | some after => do
        let (text, left) ← readLiteralLines? limit after
        return ('\n' :: text, left)
      | none =>
        if isPlain c then do
          let (text, left) ← readLiteralLines? limit rest
          return (c :: text, left)
        else none

/-- Drops a line ending right after the opening quotes. -/
def dropFirstNewline (cs : List Char) : List Char := (readNewline? cs).getD cs

/-- Reads a string on one line, opening quote included. -/
def readLineString? : List Char → Option (String × List Char)
  | '"' :: rest => (readBasic? rest.length rest).map fun (text, left) => (String.ofList text, left)
  | '\'' :: rest => (readLiteral? rest).map fun (text, left) => (String.ofList text, left)
  | _ => none

/-- Reads a string of any kind, opening quotes included. -/
def readString? : List Char → Option (String × List Char)
  | '"' :: '"' :: '"' :: rest =>
    let body := dropFirstNewline rest
    (readBasicLines? body.length body).map fun (text, left) => (String.ofList text, left)
  | '\'' :: '\'' :: '\'' :: rest =>
    let body := dropFirstNewline rest
    (readLiteralLines? body.length body).map fun (text, left) => (String.ofList text, left)
  | cs => readLineString? cs

end SocketGateway.Toml
