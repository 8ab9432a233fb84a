import SocketGateway.Toml.Expression

/-!
Contract: TOML documents.

Owns:
- the lines of a document: headers, pairs, comments and blank lines;
- the table that a document describes.

Does not own: what the entries of the table mean.
-/

namespace SocketGateway.Toml

/-- A document that has been read up to some line: its table, and the path of the table to which
pairs are added. -/
structure Document where
  entries : Entries := []
  header : List String := []

/-- Skips what may end a line: white space, a comment, and a line ending or the end of the text. -/
def skipLineEnd? (cs : List Char) : Option (List Char) :=
  match skipComment (skipBlanks cs) with
  | [] => some []
  | left => readNewline? left

/-- Reads the header of a table after its opening bracket. -/
def Document.readHeader? (document : Document) (cs : List Char) :
    Option (Document × List Char) := do
  let ((path, key), afterKey) ← readKey? cs
  match afterKey with
  | ']' :: rest => do
    let entries ← openTable? path key document.entries
    return (⟨entries, path ++ [key]⟩, ← skipLineEnd? rest)
  | _ => none

/-- Reads the header of one more table of a list after its opening brackets. -/
def Document.readElement? (document : Document) (cs : List Char) :
    Option (Document × List Char) := do
  let ((path, key), afterKey) ← readKey? cs
  match afterKey with
  | ']' :: ']' :: rest => do
    let entries ← openElement? path key document.entries
    return (⟨entries, path ++ [key]⟩, ← skipLineEnd? rest)
  | _ => none

/-- Reads a pair and adds it to the open table. -/
def Document.readPair? (document : Document) (cs : List Char) : Option (Document × List Char) := do
  let ((path, key), afterKey) ← readKey? cs
  match afterKey with
  | '=' :: rest => do
    let (value, afterValue) ← readValue? (2 * rest.length + 2) 0 (skipBlanks rest)
    let entries ← assign? document.header path key value document.entries
    return (⟨entries, document.header⟩, ← skipLineEnd? afterValue)
  | _ => none

/-- Reads one line, which is not empty. -/
def Document.readLine? (document : Document) (cs : List Char) : Option (Document × List Char) :=
  match cs with
  | '#' :: _ => (skipLineEnd? cs).map fun left => (document, left)
  | '\n' :: left => some (document, left)
  | '\r' :: _ => (readNewline? cs).map fun left => (document, left)
  | '[' :: '[' :: rest => document.readElement? rest
  | '[' :: rest => document.readHeader? rest
  | _ => document.readPair? cs

/-- Reads the remaining lines; `limit` bounds their number. -/
def Document.readLines? : Nat → Document → List Char → Option Document
  | 0, _, _ => none
  | limit + 1, document, cs =>
    match skipBlanks cs with
    | [] => some document
    | line => do
      let (document, left) ← document.readLine? line
      document.readLines? limit left

/-- The table that a document describes. A byte order mark may stand in front. -/
def ofText? (text : String) : Option Entries :=
  let cs :=
    match text.toList with
    | '\ufeff' :: rest => rest
    | cs => cs
  (Document.readLines? (cs.length + 1) {} cs).map Document.entries

end SocketGateway.Toml
