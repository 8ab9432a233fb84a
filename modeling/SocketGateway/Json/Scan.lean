import SocketGateway.Json.Token

/-!
Contract: cutting JSON text into tokens.

Owns:
- the grammar of strings and of number literals;
- white space between tokens;
- `tokens?`, which either cuts the whole text or refuses it.

Does not own: how tokens nest.
-/

namespace SocketGateway.Json

def isSpace (c : Char) : Bool :=
  c = ' ' || c = '\t' || c = '\n' || c = '\r'

def hexValue? (c : Char) : Option Nat :=
  if '0' ≤ c ∧ c ≤ '9' then some (c.toNat - 48)
  else if 'a' ≤ c ∧ c ≤ 'f' then some (c.toNat - 87)
  else if 'A' ≤ c ∧ c ≤ 'F' then some (c.toNat - 55)
  else none

/-- The number that four hexadecimal digits name. -/
def hexNumber? (a b c d : Char) : Option Nat := do
  let a ← hexValue? a
  let b ← hexValue? b
  let c ← hexValue? c
  let d ← hexValue? d
  return ((a * 16 + b) * 16 + c) * 16 + d

/-- The piece that a `\u` escape of this number writes. -/
def Piece.ofUnit (unit : Nat) : Piece :=
  if 0xd800 ≤ unit ∧ unit ≤ 0xdfff then .surrogate unit else .char (Char.ofNat unit)

/-- The character that a one-letter escape writes. -/
def escaped? : Char → Option Char
  | '"' => some '"'
  | '\\' => some '\\'
  | '/' => some '/'
  | 'b' => some '\x08'
  | 'f' => some '\x0c'
  | 'n' => some '\n'
  | 'r' => some '\r'
  | 't' => some '\t'
  | _ => none

/-- Reads a string after its opening quote; what follows the closing quote is left over. A control
character below a space must not stand for itself. -/
def readPieces? : List Char → Option (List Piece × List Char)
  | [] => none
  | '"' :: rest => some ([], rest)
  | '\\' :: 'u' :: a :: b :: c :: d :: rest => do
    let unit ← hexNumber? a b c d
    let (pieces, left) ← readPieces? rest
    return (Piece.ofUnit unit :: pieces, left)
  | '\\' :: letter :: rest => do
    let value ← escaped? letter
    let (pieces, left) ← readPieces? rest
    return (.char value :: pieces, left)
  | c :: rest =>
    if c = '\\' ∨ c.toNat < 0x20 then none
    else do
      let (pieces, left) ← readPieces? rest
      return (.char c :: pieces, left)

def spanDigits (cs : List Char) : List Char × List Char :=
  (cs.takeWhile Char.isDigit, cs.dropWhile Char.isDigit)

/-- Reads the whole part of a number: a zero alone, or digits that start with another one. -/
def readWhole? : List Char → Option (List Char × List Char)
  | '0' :: rest => some (['0'], rest)
  | cs =>
    match spanDigits cs with
    | ([], _) => none
    | digits => some digits

/-- Reads the fraction of a number, if one begins here: a point and at least one digit. -/
def readFraction? : List Char → Option (Option (List Char) × List Char)
  | '.' :: rest =>
    match spanDigits rest with
    | ([], _) => none
    | (digits, left) => some (some digits, left)
  | cs => some (none, cs)

/-- Reads the sign of an exponent. -/
def readExponentSign : List Char → ExponentSign × List Char
  | '+' :: rest => (.plus, rest)
  | '-' :: rest => (.minus, rest)
  | cs => (.unsigned, cs)

/-- Reads the exponent of a number, if one begins here: a letter, a sign, at least one digit. -/
def readExponent? : List Char → Option (Option (ExponentSign × List Char) × List Char)
  | [] => some (none, [])
  | c :: rest =>
    if c = 'e' ∨ c = 'E' then
      let (sign, after) := readExponentSign rest
      match spanDigits after with
      | ([], _) => none
      | (digits, left) => some (some (sign, digits), left)
    else some (none, c :: rest)

def readMinus : List Char → Bool × List Char
  | '-' :: rest => (true, rest)
  | cs => (false, cs)

def readLiteral? (cs : List Char) : Option (Literal × List Char) := do
  let (negative, afterSign) := readMinus cs
  let (whole, afterWhole) ← readWhole? afterSign
  let (fraction, afterFraction) ← readFraction? afterWhole
  let (exponent, left) ← readExponent? afterFraction
  return (⟨negative, whole, fraction, exponent⟩, left)

/-- Reads the token that starts with `c`; white space is no token. -/
def readToken? (c : Char) (rest : List Char) : Option (Token × List Char) :=
  match c with
  | '\x7b' => some (.openBrace, rest)
  | '\x7d' => some (.closeBrace, rest)
  | '[' => some (.openBracket, rest)
  | ']' => some (.closeBracket, rest)
  | ':' => some (.colon, rest)
  | ',' => some (.comma, rest)
  | '"' => (readPieces? rest).map fun (pieces, left) => (.text pieces, left)
  | 'n' =>
    match rest with
    | 'u' :: 'l' :: 'l' :: left => some (.word .null, left)
    | _ => none
  | 't' =>
    match rest with
    | 'r' :: 'u' :: 'e' :: left => some (.word .true, left)
    | _ => none
  | 'f' =>
    match rest with
    | 'a' :: 'l' :: 's' :: 'e' :: left => some (.word .false, left)
    | _ => none
  | _ => (readLiteral? (c :: rest)).map fun (literal, left) => (.number literal, left)

/-- Cuts a text into its tokens; `limit` bounds their number, and white space counts too. -/
def tokensWithin? : Nat → List Char → Option (List Token)
  | _, [] => some []
  | 0, _ :: _ => none
  | limit + 1, c :: rest =>
    if isSpace c then tokensWithin? limit rest
    else do
      let (token, left) ← readToken? c rest
      let tokens ← tokensWithin? limit left
      return token :: tokens

/-- The tokens of a text. A token takes at least one character, so the length of the text bounds
their number. -/
def tokens? (cs : List Char) : Option (List Token) :=
  tokensWithin? cs.length cs

end SocketGateway.Json
