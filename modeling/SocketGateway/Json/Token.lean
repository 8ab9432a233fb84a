import SocketGateway.Json.Value

/-!
Contract: the tokens of JSON text and their spelling.

Owns:
- the characters of a string as they were written, lone halves of surrogate pairs included;
- number literals by their parts;
- the spelling of each token, which is the one that compact text uses.

Does not own: reading tokens from text, or the values that tokens stand for.
-/

namespace SocketGateway.Json

/-- One character of a string. A surrogate escape stands for half a character. -/
inductive Piece where
  | char (value : Char)
  | surrogate (unit : Nat)
deriving DecidableEq, Repr

/-- The sign of an exponent: written plus, written minus, or not written. -/
inductive ExponentSign where
  | unsigned
  | plus
  | minus
deriving DecidableEq, Repr

/-- A number as written; every digit list is in reading order. -/
structure Literal where
  negative : Bool := false
  whole : List Char
  fraction : Option (List Char) := none
  exponent : Option (ExponentSign × List Char) := none
deriving DecidableEq, Repr

/-- The three words of JSON. -/
inductive Keyword where
  | null
  | true
  | false
deriving DecidableEq, Repr

inductive Token where
  | openBrace
  | closeBrace
  | openBracket
  | closeBracket
  | colon
  | comma
  | word (keyword : Keyword)
  | number (literal : Literal)
  | text (pieces : List Piece)
deriving DecidableEq, Repr

/-- The lower-case hexadecimal digits of `n`, padded with zeros to four. -/
def hex4 (n : Nat) : List Char :=
  [n / 4096 % 16, n / 256 % 16, n / 16 % 16, n % 16].map Nat.digitChar

/-- A character inside quotes: quote, backslash and control characters are escaped, the five
usual ones by a letter, and everything else stands for itself. -/
def escapeChar (c : Char) : List Char :=
  if c = '"' then ['\\', '"']
  else if c = '\\' then ['\\', '\\']
  else if c = '\x08' then ['\\', 'b']
  else if c = '\x0c' then ['\\', 'f']
  else if c = '\n' then ['\\', 'n']
  else if c = '\r' then ['\\', 'r']
  else if c = '\t' then ['\\', 't']
  else if c.toNat < 0x20 then '\\' :: 'u' :: hex4 c.toNat
  else [c]

def Piece.chars : Piece → List Char
  | .char value => escapeChar value
  | .surrogate unit => '\\' :: 'u' :: hex4 unit

def ExponentSign.chars : ExponentSign → List Char
  | .unsigned => []
  | .plus => ['+']
  | .minus => ['-']

def Literal.chars (literal : Literal) : List Char :=
  (if literal.negative then ['-'] else [])
    ++ literal.whole
    ++ (match literal.fraction with
        | none => []
        | some digits => '.' :: digits)
    ++ (match literal.exponent with
        | none => []
        | some (sign, digits) => 'e' :: (sign.chars ++ digits))

def Keyword.chars : Keyword → List Char
  | .null => ['n', 'u', 'l', 'l']
  | .true => ['t', 'r', 'u', 'e']
  | .false => ['f', 'a', 'l', 's', 'e']

/-- The spelling of a token. -/
def Token.chars : Token → List Char
  | .openBrace => ['\x7b']
  | .closeBrace => ['\x7d']
  | .openBracket => ['[']
  | .closeBracket => [']']
  | .colon => [':']
  | .comma => [',']
  | .word keyword => keyword.chars
  | .number literal => literal.chars
  | .text pieces => '"' :: (pieces.flatMap Piece.chars ++ ['"'])

end SocketGateway.Json
