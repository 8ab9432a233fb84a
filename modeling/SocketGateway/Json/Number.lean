import SocketGateway.Decimal.Shortest
import SocketGateway.Json.Token

/-!
Contract: the values of number literals, and the literals of numbers.

Owns:
- which literals are integers and which are floats;
- the value of a float literal, found with a 64-bit significand and one division or product by a
  power of ten, and so not always the double nearest to the literal;
- the literal that a number is written with.

Does not own: the grammar of literals.
-/

namespace SocketGateway.Json

def digitValue (c : Char) : Nat := c.toNat - 48

/-- The natural number that a list of decimal digits names. -/
def digitsValue (digits : List Char) : Nat :=
  digits.foldl (fun value c => value * 10 + digitValue c) 0

/-- The number `significand * 10 ^ exponent`, with a significand that an unsigned word holds. -/
structure Scaled where
  significand : Nat
  exponent : Int
deriving DecidableEq, Repr

/-- Reads digits before the point. From the first one on that does not fit into the word, every
digit raises the exponent instead. -/
def Scaled.readWhole (significand : Nat) : List Char → Scaled
  | [] => ⟨significand, 0⟩
  | c :: rest =>
    let next := significand * 10 + digitValue c
    if next < UInt64.size then readWhole next rest else ⟨significand, ((c :: rest).length : Int)⟩

/-- Reads digits after the point. From the first one on that does not fit into the word, the digits
are dropped. -/
def Scaled.readFraction (scaled : Scaled) : List Char → Scaled
  | [] => scaled
  | c :: rest =>
    let next := scaled.significand * 10 + digitValue c
    if next < UInt64.size then readFraction ⟨next, scaled.exponent - 1⟩ rest else scaled

/-- The exponent that a literal writes. -/
def writtenExponent : Option (ExponentSign × List Char) → Int
  | none => 0
  | some (.minus, digits) => -(digitsValue digits : Int)
  | some (_, digits) => (digitsValue digits : Int)

def Literal.scaled (literal : Literal) : Scaled :=
  let whole := Scaled.readWhole 0 literal.whole
  let scaled := whole.readFraction (literal.fraction.getD [])
  ⟨scaled.significand, scaled.exponent + writtenExponent literal.exponent⟩

/-- The double nearest to `10 ^ exponent`, for exponents up to 308. -/
def tenTo (exponent : Nat) : Float := Float.ofScientific 1 false exponent

/-- Divides by `10 ^ exponent`, by `10 ^ 308` at a time. A zero stays zero. -/
def divideByTenTo (value : Float) (exponent : Nat) : Float :=
  if value == 0 then value
  else if exponent ≤ 308 then value / tenTo exponent
  else divideByTenTo (value / tenTo 308) (exponent - 308)
termination_by exponent

/-- The double that a scaled number is read as; nothing when it is out of range. -/
def Scaled.float? (scaled : Scaled) : Option Float :=
  let value := (UInt64.ofNat scaled.significand).toFloat
  if scaled.exponent < 0 then some (divideByTenTo value (-scaled.exponent).toNat)
  else if 308 < scaled.exponent then if value == 0 then some value else none
  else
    let product := value * tenTo scaled.exponent.toNat
    if product.isInf then none else some product

/-- The integer that a literal without fraction and exponent names, if a word holds it. A zero with
a minus sign is none. -/
def Literal.integer? (literal : Literal) : Option WordInteger :=
  if literal.fraction.isSome || literal.exponent.isSome then none
  else
    let value := digitsValue literal.whole
    if literal.negative then
      if value = 0 then none else WordInteger.ofInt? (-(value : Int))
    else WordInteger.ofInt? value

/-- The value of a literal: an integer where that is exact, otherwise a float; nothing when the
float is out of range. -/
def Literal.value? (literal : Literal) : Option Json :=
  match literal.integer? with
  | some value => some (.integer value)
  | none =>
    literal.scaled.float?.map fun value => .float (if literal.negative then -value else value)

def Literal.ofInt (value : Int) : Literal where
  negative := value < 0
  whole := Nat.toDigits 10 value.natAbs

/-- The literal of a positive decimal. From `10 ^ -5` up to below `10 ^ 16` it is positional and
has a fraction; otherwise it has one digit before the point and a signed exponent, and a fraction
only if there are further digits. -/
def Literal.ofDecimal (negative : Bool) (decimal : Decimal.Numeral) : Literal :=
  let digits := Nat.toDigits 10 decimal.digits
  let point : Int := digits.length + decimal.exponent
  if -5 < point ∧ point ≤ 16 then
    if point ≤ 0 then ⟨negative, ['0'], some (List.replicate (-point).toNat '0' ++ digits), none⟩
    else
      let whole := digits.take point.toNat
      let fraction := digits.drop point.toNat
      ⟨negative, whole ++ List.replicate (point.toNat - digits.length) '0',
        some (if fraction.isEmpty then ['0'] else fraction), none⟩
  else
    let exponent := point - 1
    ⟨negative, digits.take 1, if digits.length ≤ 1 then none else some (digits.drop 1),
      some (if exponent < 0 then .minus else .plus, Nat.toDigits 10 exponent.natAbs)⟩

/-- The literal of a finite double: the fewest digits that name it. -/
def Literal.ofFloat (value : Float) : Literal :=
  let bits := value.toBits
  let negative := 0x8000000000000000 ≤ bits.toNat
  let magnitude := Decimal.Binary.ofBits bits
  if magnitude.significand = 0 then ⟨negative, ['0'], some ['0'], none⟩
  else .ofDecimal negative magnitude.shortest

end SocketGateway.Json
