/-!
Contract: the shortest decimal that names a double.

Owns:
- the exact reading of a positive finite double as `significand * 2 ^ exponent`;
- the rounding interval of such a double;
- the search for the decimal with the fewest digits inside that interval.

Does not own: how a decimal is laid out as text.
-/

namespace SocketGateway.Decimal

/-- The number `digits * 10 ^ exponent`. -/
structure Numeral where
  digits : Nat
  exponent : Int
deriving DecidableEq, Repr

/-- The positive number `significand * 2 ^ exponent`. `atEdge` tells that the doubles below it are
twice as dense as those above it. -/
structure Binary where
  significand : Nat
  exponent : Int
  atEdge : Bool
deriving DecidableEq, Repr

/-- The absolute value of a finite double, read from its bits. -/
def Binary.ofBits (bits : UInt64) : Binary :=
  let fraction : Nat := bits.toNat % Nat.pow 2 52
  let field : Nat := bits.toNat / Nat.pow 2 52 % Nat.pow 2 11
  if field = 0 then ⟨fraction, -1074, false⟩
  else ⟨fraction + Nat.pow 2 52, (field : Int) - 1075, fraction = 0 && field != 1⟩

/-- A fraction of natural numbers; the divisor is positive wherever one is built here. -/
structure Ratio where
  top : Nat
  bottom : Nat
deriving DecidableEq, Repr

def Ratio.scaled (value : Nat) (exponent : Int) : Ratio :=
  if 0 ≤ exponent then ⟨value * Nat.pow 2 exponent.toNat, 1⟩
  else ⟨value, Nat.pow 2 (-exponent).toNat⟩

def Ratio.le (left right : Ratio) : Bool :=
  left.top * right.bottom ≤ right.top * left.bottom

def Ratio.lt (left right : Ratio) : Bool :=
  left.top * right.bottom < right.top * left.bottom

/-- The reals that round to a double: its ends are inside exactly when the significand is even. -/
structure Interval where
  low : Ratio
  high : Ratio
  closed : Bool

/-- The interval of the reals that round to `b`. -/
def Binary.interval (b : Binary) : Interval where
  low := Ratio.scaled (4 * b.significand - if b.atEdge then 1 else 2) (b.exponent - 2)
  high := Ratio.scaled (4 * b.significand + 2) (b.exponent - 2)
  closed := b.significand % 2 = 0

def Interval.contains (interval : Interval) (x : Ratio) : Bool :=
  if interval.closed then interval.low.le x && x.le interval.high
  else interval.low.lt x && x.lt interval.high

def Binary.ratio (b : Binary) : Ratio := Ratio.scaled b.significand b.exponent

/-- The number of decimal digits before the point, counted below one as a number of zeros:
`10 ^ (magnitude x - 1) ≤ x < 10 ^ magnitude x`. -/
def Ratio.magnitude (x : Ratio) : Int :=
  if x.bottom ≤ x.top then ((Nat.toDigits 10 (x.top / x.bottom)).length : Int)
  else 1 - ((Nat.toDigits 10 (x.bottom / x.top)).length : Int)

def Numeral.ratio (d : Numeral) : Ratio :=
  if 0 ≤ d.exponent then ⟨d.digits * Nat.pow 10 d.exponent.toNat, 1⟩
  else ⟨d.digits, Nat.pow 10 (-d.exponent).toNat⟩

/-- The distance of two fractions, over the product of their divisors. -/
def Ratio.distance (left right : Ratio) : Ratio where
  top := (left.top * right.bottom - right.top * left.bottom)
    + (right.top * left.bottom - left.top * right.bottom)
  bottom := left.bottom * right.bottom

/-- The neighbour of `x` below it on the grid of the multiples of `10 ^ exponent`. -/
def Ratio.below (x : Ratio) (exponent : Int) : Nat :=
  if 0 ≤ exponent then x.top / (x.bottom * Nat.pow 10 exponent.toNat)
  else x.top * Nat.pow 10 (-exponent).toNat / x.bottom

/-- The better of the two neighbours of `x` on a grid, if one of them lies in the interval. The
nearer one is better; of two equally near ones it is the even one. -/
def Interval.onGrid (interval : Interval) (x : Ratio) (exponent : Int) : Option Numeral :=
  let under : Numeral := ⟨x.below exponent, exponent⟩
  let above : Numeral := ⟨under.digits + 1, exponent⟩
  -- a zero names no positive number
  match under.digits != 0 && interval.contains under.ratio, interval.contains above.ratio with
  | false, false => none
  | true, false => some under
  | false, true => some above
  | true, true =>
    let toUnder := under.ratio.distance x
    let toAbove := above.ratio.distance x
    if toUnder.lt toAbove then some under
    else if toAbove.lt toUnder then some above
    else if under.digits % 2 = 0 then some under else some above

/-- Moves trailing zeros of the digits into the exponent, at most `limit` of them. -/
def Numeral.trim (d : Numeral) : Nat → Numeral
  | 0 => d
  | limit + 1 =>
    if d.digits != 0 && d.digits % 10 = 0 then trim ⟨d.digits / 10, d.exponent + 1⟩ limit else d

/-- The decimal with the fewest digits that rounds to `b`; among those the nearest one. Seventeen
digits always suffice for a double. -/
def Binary.shortest (b : Binary) : Numeral :=
  let x := b.ratio
  let found := (List.range 17).findSome? fun (count : Nat) =>
    b.interval.onGrid x (x.magnitude - ((count : Nat) + 1 : Int))
  (found.getD ⟨b.significand, 0⟩).trim 20

end SocketGateway.Decimal
