import SocketGateway.Toml.Quoted
import SocketGateway.Toml.Number

/-!
Contract: the keys and values of TOML.

Owns:
- plain and quoted keys and the dotted keys made of them;
- values of every kind, with arrays over several lines and tables in braces;
- the limit on nesting.

Does not own: the lines of a document.
-/

namespace SocketGateway.Toml

/-- Neither values nor dotted keys may be as deep as this. -/
def depthLimit : Nat := 80

def isKeyChar (c : Char) : Bool :=
  ('a' ≤ c && c ≤ 'z') || ('A' ≤ c && c ≤ 'Z') || ('0' ≤ c && c ≤ '9') || c = '-' || c = '_'

def skipBlanks (cs : List Char) : List Char := cs.dropWhile isBlankChar

def readSegment? (cs : List Char) : Option (String × List Char) :=
  match cs with
  | '"' :: _ => readLineString? cs
  | '\'' :: _ => readLineString? cs
  | _ =>
    match cs.takeWhile isKeyChar with
    | [] => none
    | name => some (String.ofList name, cs.dropWhile isKeyChar)

/-- Reads a dotted key of at most `limit` segments, with the white space around each. -/
def readSegments? : Nat → List Char → Option (List String × List Char)
  | 0, _ => none
  | limit + 1, cs => do
    let (segment, left) ← readSegment? (skipBlanks cs)
    match skipBlanks left with
    | '.' :: rest => do
      let (others, left) ← readSegments? limit rest
      return (segment :: others, left)
    | rest => return ([segment], rest)

/-- Reads a dotted key: the segments before the last one, and the last one. -/
def readKey? (cs : List Char) : Option ((List String × String) × List Char) := do
  let (segments, left) ← readSegments? (depthLimit - 1) cs
  return ((segments.dropLast, ← segments.getLast?), left)

/-- Skips a comment, if one begins here, up to the end of its line. -/
def skipComment : List Char → List Char
  | '#' :: rest => rest.dropWhile isPlain
  | cs => cs

/-- Skips white space, line endings and comments. -/
def skipGaps : Nat → List Char → List Char
  | 0, cs => cs
  | limit + 1, cs =>
    match skipLines cs with
    | '#' :: rest => skipGaps limit (skipComment ('#' :: rest))
    | left => left

/-- Skips what may stand between the items of an array. -/
def skipBetween (cs : List Char) : List Char := skipGaps cs.length cs

/-- A word that is a value. -/
def readWord? : List Char → Option (Value × List Char)
  | 't' :: 'r' :: 'u' :: 'e' :: left => some (.bool true, left)
  | 'f' :: 'a' :: 'l' :: 's' :: 'e' :: left => some (.bool false, left)
  | _ => none

mutual

/-- Reads a value. `limit` bounds the number of readings inside one another, and `depth` counts the
arrays and braces around the value. -/
def readValue? (limit depth : Nat) (cs : List Char) : Option (Value × List Char) :=
  match limit with
  | 0 => none
  | limit + 1 =>
    match cs with
    | '[' :: rest =>
      if depthLimit ≤ depth + 1 then none
      else do
        let (items, left) ← readItems? limit (depth + 1) (skipBetween rest)
        return (.array items, left)
    | '\x7b' :: rest =>
      if depthLimit ≤ depth + 1 then none
      else
        match skipBlanks rest with
        | '\x7d' :: left => some (.table .inline [], left)
        | _ => do
          let (entries, left) ← readPairs? limit (depth + 1) [] rest
          return (.table .inline entries, left)
    | '"' :: _ => (readString? cs).map fun (text, left) => (.string text, left)
    | '\'' :: _ => (readString? cs).map fun (text, left) => (.string text, left)
    | _ => readWord? cs <|> readNumber? cs

/-- Reads the items of an array and its closing bracket. -/
def readItems? (limit depth : Nat) (cs : List Char) : Option (List Value × List Char) :=
  match limit with
  | 0 => none
  | limit + 1 =>
    match cs with
    | ']' :: left => some ([], left)
    | _ => do
      let (item, afterItem) ← readValue? limit depth cs
      match skipBetween afterItem with
      | ',' :: rest => do
        let (items, left) ← readItems? limit depth (skipBetween rest)
        return (item :: items, left)
      | ']' :: left => some ([item], left)
      | _ => none

/-- Reads the pairs of a table in braces and its closing brace; there is at least one. -/
def readPairs? (limit depth : Nat) (entries : Entries) (cs : List Char) :
    Option (Entries × List Char) :=
  match limit with
  | 0 => none
  | limit + 1 => do
    let ((path, key), afterKey) ← readKey? cs
    match afterKey with
    | '=' :: rest => do
      let (value, afterValue) ← readValue? limit depth (skipBlanks rest)
      let entries ← assign? [] path key value entries
      match skipBlanks afterValue with
      | ',' :: rest => readPairs? limit depth entries rest
      | '\x7d' :: left => some (entries, left)
      | _ => none
    | _ => none

end

end SocketGateway.Toml
