import SocketGateway.Handshake
import SocketGateway.Text.Utf8

/-!
Contract: handshakes as they come over HTTP.

Owns:
- decoding the query of a request: fields between ampersands, plus signs and percent escapes;
- the path of a target, and which characters a target may hold;
- which header values are usable.

Does not own: the upgrade of a connection.
-/

namespace SocketGateway.Http

def hexValue? (c : Char) : Option Nat :=
  if '0' ≤ c ∧ c ≤ '9' then some (c.toNat - 48)
  else if 'a' ≤ c ∧ c ≤ 'f' then some (c.toNat - 87)
  else if 'A' ≤ c ∧ c ≤ 'F' then some (c.toNat - 55)
  else none

def hexByte? (high low : Char) : Option Nat := do
  return (← hexValue? high) * 16 + (← hexValue? low)

/-- The bytes of a name or value of a query. A plus sign is a space, and a percent sign that is not
followed by two digits stands for itself. -/
def queryBytes : List Char → List Nat
  | [] => []
  | '+' :: rest => 0x20 :: queryBytes rest
  | '%' :: high :: low :: rest =>
    match hexByte? high low with
    | some byte => byte :: queryBytes rest
    | none => 0x25 :: queryBytes (high :: low :: rest)
  | c :: rest => Text.bytesOf c ++ queryBytes rest

def decodeComponent (cs : List Char) : String :=
  String.ofList (Text.decodeLossy (queryBytes cs))

/-- Cuts at a character; the parts between two of them, empty ones included. -/
def splitAt (mark : Char) : List Char → List (List Char)
  | [] => [[]]
  | c :: rest =>
    if c = mark then [] :: splitAt mark rest
    else
      match splitAt mark rest with
      | [] => [[c]]
      | part :: parts => (c :: part) :: parts

/-- A field of a query: the name ends at the first equals sign. -/
def decodeField (cs : List Char) : String × String :=
  (decodeComponent (cs.takeWhile (· ≠ '=')), decodeComponent ((cs.dropWhile (· ≠ '=')).drop 1))

/-- The fields of a query, in order; empty parts are no fields. -/
def decodeQuery (query : String) : List (String × String) :=
  ((splitAt '&' query.toList).filter fun part => !part.isEmpty).map decodeField

/-- A target without its fragment, which the server does not see. -/
def withoutFragment (target : String) : String :=
  String.ofList (target.toList.takeWhile (· ≠ '#'))

/-- The path of a target, which ends where the query or the fragment begins. -/
def pathOf (target : String) : String :=
  String.ofList ((withoutFragment target).toList.takeWhile (· ≠ '?'))

/-- Whether a character may stand in a target at all: spaces, control characters and angle brackets
must be escaped. -/
def isTargetChar (c : Char) : Bool :=
  0x20 < c.toNat && c.toNat != 0x7f && !(c = '<' || c = '>')

/-- Whether a request may carry the target. A path must not hold a grave accent, nor a query a
double quote. -/
def isTarget (target : String) : Bool :=
  target ≠ "" && target.toList.all isTargetChar &&
    !(pathOf target).toList.contains (Char.ofNat 0x60) &&
    !((withoutFragment target).toList.dropWhile (· ≠ '?')).contains '"'

/-- Drops spaces and tabs at both ends. -/
def trim (value : String) : String :=
  let isBlankChar := fun c : Char => c = ' ' || c = '\t'
  String.ofList (((value.toList.dropWhile isBlankChar).reverse.dropWhile isBlankChar).reverse)

/-- Whether a header value consists of visible ASCII characters, spaces and tabs. -/
def isUsable (value : String) : Bool :=
  value.toList.all fun c => c = '\t' || (0x20 ≤ c.toNat && c.toNat < 0x7f)

/-- The headers that a handshake sees: values are trimmed, and unusable ones are passed over. -/
def usableHeaders (headers : List (String × String)) : List (String × String) :=
  (headers.map fun header => (header.1, trim header.2)).filter fun header => isUsable header.2

def handshake (headers : List (String × String)) (query : Option String) : Handshake :=
  .ofLists (usableHeaders headers)
    (match query with
      | none => []
      | some text => decodeQuery (withoutFragment text))

end SocketGateway.Http
