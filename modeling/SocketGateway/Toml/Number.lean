import SocketGateway.Toml.Value

/-!
Contract: the numbers and dates of TOML.

Owns:
- integers in four bases, with underscores between digits, inside a signed word;
- floats, which must not be too large;
- dates and times, with the range of each part.

Does not own: where a value may stand.
-/

namespace SocketGateway.Toml

/-- Reads digits of one class, with single underscores between them; the underscores are dropped. -/
def readDigits? (isDigit : Char → Bool) : List Char → Option (List Char × List Char)
  | [] => none
  | [c] => if isDigit c then some ([c], []) else none
  | c :: '_' :: rest =>
    if isDigit c then (readDigits? isDigit rest).map fun (digits, left) => (c :: digits, left)
    else none
  | c :: d :: rest =>
    if !isDigit c then none
    else if isDigit d then
      (readDigits? isDigit (d :: rest)).map fun (digits, left) => (c :: digits, left)
    else some ([c], d :: rest)

/-- Reads a sign; a missing one counts as plus. -/
def readSign : List Char → Bool × List Char
  | '+' :: rest => (false, rest)
  | '-' :: rest => (true, rest)
  | cs => (false, cs)

/-- Reads a decimal number without leading zeros. -/
def readDecimal? : List Char → Option (List Char × List Char)
  | '0' :: rest => some (['0'], rest)
  | cs => readDigits? Char.isDigit cs

/-- The value of a digit of any base up to 16. -/
def baseDigit (c : Char) : Nat :=
  if '0' ≤ c ∧ c ≤ '9' then c.toNat - 48
  else if 'a' ≤ c ∧ c ≤ 'f' then c.toNat - 87
  else c.toNat - 55

def numberOf (base : Nat) (digits : List Char) : Nat :=
  digits.foldl (fun value c => value * base + baseDigit c) 0

/-- An integer, which a signed word must hold. -/
def wordValue? (value : Int) : Option Value :=
  if -0x8000000000000000 ≤ value ∧ value < 0x8000000000000000 then some (.integer value) else none

def isHexDigit (c : Char) : Bool :=
  ('0' ≤ c && c ≤ '9') || ('a' ≤ c && c ≤ 'f') || ('A' ≤ c && c ≤ 'F')

def isOctalDigit (c : Char) : Bool := '0' ≤ c && c ≤ '7'

def isBinaryDigit (c : Char) : Bool := c = '0' || c = '1'

/-- Reads an integer. Only decimal ones have a sign. -/
def readInteger? : List Char → Option (Value × List Char)
  | '0' :: 'x' :: rest => do
    let (digits, left) ← readDigits? isHexDigit rest
    return (← wordValue? (numberOf 16 digits), left)
  | '0' :: 'o' :: rest => do
    let (digits, left) ← readDigits? isOctalDigit rest
    return (← wordValue? (numberOf 8 digits), left)
  | '0' :: 'b' :: rest => do
    let (digits, left) ← readDigits? isBinaryDigit rest
    return (← wordValue? (numberOf 2 digits), left)
  | cs => do
    let (negative, unsigned) := readSign cs
    let (digits, left) ← readDecimal? unsigned
    let value : Int := numberOf 10 digits
    return (← wordValue? (if negative then -value else value), left)

def readExponent? : List Char → Option (Int × List Char)
  | c :: rest =>
    if c = 'e' ∨ c = 'E' then do
      let (negative, unsigned) := readSign rest
      let (digits, left) ← readDigits? Char.isDigit unsigned
      let value : Int := numberOf 10 digits
      return (if negative then -value else value, left)
    else none
  | [] => none

/-- Whether `digits * 10 ^ exponent` is nearer to a double than to the numbers beyond all doubles:
it is below `2 ^ 1024 - 2 ^ 970`. Very large and very small exponents are decided by the number of
digits. -/
def isFinite (digits : Nat) (exponent : Int) : Bool :=
  let places : Int := (Nat.toDigits 10 digits).length + exponent
  if digits = 0 ∨ places < 300 then true
  else if 320 < places then false
  else if 0 ≤ exponent then
    digits * Nat.pow 10 exponent.toNat < Nat.pow 2 1024 - Nat.pow 2 970
  else digits < (Nat.pow 2 1024 - Nat.pow 2 970) * Nat.pow 10 (-exponent).toNat

/-- Reads a float by its parts: digits, then a fraction or an exponent or both. A positive float
must not be too large. -/
def readFinite? (cs : List Char) : Option (Value × List Char) := do
  let (negative, unsigned) := readSign cs
  let (whole, afterWhole) ← readDecimal? unsigned
  let (fraction, afterFraction) ←
    match afterWhole with
    | '.' :: rest => readDigits? Char.isDigit rest
    | _ => some ([], afterWhole)
  let (exponent, left) ←
    match readExponent? afterFraction with
    | some found => some found
    | none =>
      match afterFraction with
      -- an exponent was begun that cannot be read
      | 'e' :: _ => none
      | 'E' :: _ => none
      | _ => if fraction.isEmpty then none else some (0, afterFraction)
  if negative || isFinite (numberOf 10 (whole ++ fraction)) (exponent - fraction.length) then
    some (.float, left)
  else none

/-- Reads a float, which may also be infinite or no number. -/
def readFloat? (cs : List Char) : Option (Value × List Char) :=
  match (readSign cs).2 with
  | 'i' :: 'n' :: 'f' :: left => some (.float, left)
  | 'n' :: 'a' :: 'n' :: left => some (.float, left)
  | _ => readFinite? cs

/-- Reads exactly `count` digits. -/
def readPlaces? (count : Nat) (cs : List Char) : Option (Nat × List Char) :=
  let digits := cs.take count
  if digits.length = count ∧ digits.all Char.isDigit then
    some (numberOf 10 digits, cs.drop count)
  else none

def readMark? (mark : Char) : List Char → Option (List Char)
  | c :: rest => if c = mark then some rest else none
  | [] => none

def daysIn (year month : Nat) : Nat :=
  if month = 2 then
    if year % 4 = 0 ∧ (year % 100 ≠ 0 ∨ year % 400 = 0) then 29 else 28
  else if month = 4 ∨ month = 6 ∨ month = 9 ∨ month = 11 then 30
  else 31

def readDate? (cs : List Char) : Option (List Char) := do
  let (year, afterYear) ← readPlaces? 4 cs
  let (month, afterMonth) ← readPlaces? 2 (← readMark? '-' afterYear)
  let (day, left) ← readPlaces? 2 (← readMark? '-' afterMonth)
  if 1 ≤ month ∧ month ≤ 12 ∧ 1 ≤ day ∧ day ≤ daysIn year month then some left else none

/-- Reads the fraction of a second, if one begins here. -/
def readSecondFraction? : List Char → Option (List Char)
  | '.' :: rest =>
    match rest.takeWhile Char.isDigit with
    | [] => none
    | _ => some (rest.dropWhile Char.isDigit)
  | cs => some cs

/-- Reads a time of the day, which may have a leap second. -/
def readTime? (cs : List Char) : Option (List Char) := do
  let (hour, afterHour) ← readPlaces? 2 cs
  let (minute, afterMinute) ← readPlaces? 2 (← readMark? ':' afterHour)
  let (second, afterSecond) ← readPlaces? 2 (← readMark? ':' afterMinute)
  if hour ≤ 23 ∧ minute ≤ 59 ∧ second ≤ 60 then readSecondFraction? afterSecond else none

/-- Reads the offset from UTC, if one begins here. -/
def readOffset? : List Char → Option (List Char)
  | [] => some []
  | c :: rest =>
    if c = 'Z' ∨ c = 'z' then some rest
    else if c = '+' ∨ c = '-' then do
      let (hour, afterHour) ← readPlaces? 2 rest
      let (minute, left) ← readPlaces? 2 (← readMark? ':' afterHour)
      if hour ≤ 23 ∧ minute ≤ 59 then some left else none
    else some (c :: rest)

/-- Whether an hour and its colon stand in front, so that a time must follow. -/
def startsTime (cs : List Char) : Bool :=
  match readPlaces? 2 cs with
  | some (hour, ':' :: _) => hour ≤ 23
  | _ => false

/-- Reads a date, a time, or both. After a date a space starts a time only if one follows. -/
def readMoment? (cs : List Char) : Option (Value × List Char) :=
  match readDate? cs with
  | some afterDate =>
    match afterDate with
    | c :: rest =>
      if (c = 'T' ∨ c = 't' ∨ c = ' ') ∧ startsTime rest then do
        let afterTime ← readTime? rest
        return (.date, ← readOffset? afterTime)
      else some (.date, afterDate)
    | [] => some (.date, [])
  | none => (readTime? cs).map fun left => (.date, left)

/-- Reads a number or a date. -/
def readNumber? (cs : List Char) : Option (Value × List Char) :=
  readMoment? cs <|> readFloat? cs <|> readInteger? cs

end SocketGateway.Toml
