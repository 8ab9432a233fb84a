import SocketGateway.Identity

/-!
Contract: fresh ids and tokens, drawn from random bits.

Owns:
- the layout of 128 random bits as hexadecimal digits in groups, with a fixed version digit and a
  variant digit that is one of four;
- the shape of such a text, in which every other digit is hidden.

Does not own: the source of the random bits.
-/

namespace SocketGateway.Fresh

/-- The lower-case hexadecimal digits of `n`, padded with zeros to `width`. -/
def hexDigits : Nat → Nat → List Char
  | 0, _ => []
  | width + 1, n => hexDigits width (n / 16) ++ [Nat.digitChar (n % 16)]

/-- The text of 128 random bits: groups of 8, 4, 4, 4 and 12 digits. The third group starts with
the version digit 4 and the fourth with a digit whose two high bits are `10`. -/
def text (high low : UInt64) : String :=
  let versioned := high.toNat / 0x10000 * 0x10000 + 0x4000 + high.toNat % 0x1000
  let variant := 0x8000000000000000 + low.toNat % 0x4000000000000000
  let digits := hexDigits 16 versioned ++ hexDigits 16 variant
  String.ofList (digits.take 8 ++ '-' :: (digits.drop 8).take 4 ++ '-' :: (digits.drop 12).take 4
    ++ '-' :: (digits.drop 16).take 4 ++ '-' :: digits.drop 20)

def connectionId (high low : UInt64) : ConnectionId := ⟨text high low⟩

def correlationToken (high low : UInt64) : CorrelationToken := ⟨text high low⟩

/-- Hides the digit at a position: the version digit stays, the variant digit becomes `v` if it is
one of the four, and any other digit becomes `x`. -/
def hide (position : Nat) (c : Char) : Char :=
  if c = '-' then '-'
  else if position = 14 then c
  else if position = 19 then if c ∈ ['8', '9', 'a', 'b'] then 'v' else c
  else 'x'

/-- The shape of the text of an id or token. -/
def shape (text : String) : String :=
  String.ofList (text.toList.zipIdx.map fun (c, position) => hide position c)

end SocketGateway.Fresh
