/-!
Contract: reading UTF-8 that may be broken.

Owns:
- the characters of a list of bytes, where a broken sequence gives one replacement character for as
  many bytes as could have begun a sequence.

Does not own: writing UTF-8, which the core library does.
-/

namespace SocketGateway.Text

def replacement : Char := '\ufffd'

/-- Whether a byte continues a sequence. -/
def isContinuation (byte : Nat) : Bool := 0x80 ≤ byte && byte ≤ 0xbf

/-- Whether `second` may follow `first` in a sequence of three bytes: the character must need all
three, and it must be no surrogate. -/
def mayFollow3 (first second : Nat) : Bool :=
  if first = 0xe0 then 0xa0 ≤ second && second ≤ 0xbf
  else if first = 0xed then 0x80 ≤ second && second ≤ 0x9f
  else isContinuation second

/-- Whether `second` may follow `first` in a sequence of four bytes: the character must need all
four, and it must not be beyond the last code point. -/
def mayFollow4 (first second : Nat) : Bool :=
  if first = 0xf0 then 0x90 ≤ second && second ≤ 0xbf
  else if first = 0xf4 then 0x80 ≤ second && second ≤ 0x8f
  else isContinuation second

/-- Reads the bytes after the first byte of a sequence of two, three or four: the character, and how
many of the bytes belong to it. If they do not complete a sequence, it is the replacement character,
and those bytes belong to it that could have. -/
def decodeAfter (first : Nat) (rest : List Nat) : Char × Nat :=
  if first < 0x80 then (Char.ofNat first, 0)
  else if 0xc2 ≤ first ∧ first ≤ 0xdf then
    match rest with
    | b :: _ =>
      if isContinuation b then (Char.ofNat ((first - 0xc0) * 0x40 + (b - 0x80)), 1)
      else (replacement, 0)
    | [] => (replacement, 0)
  else if 0xe0 ≤ first ∧ first ≤ 0xef then
    match rest with
    | b :: c :: _ =>
      if !mayFollow3 first b then (replacement, 0)
      else if !isContinuation c then (replacement, 1)
      else (Char.ofNat ((first - 0xe0) * 0x1000 + (b - 0x80) * 0x40 + (c - 0x80)), 2)
    | [b] => (replacement, if mayFollow3 first b then 1 else 0)
    | [] => (replacement, 0)
  else if 0xf0 ≤ first ∧ first ≤ 0xf4 then
    match rest with
    | b :: c :: d :: _ =>
      if !mayFollow4 first b then (replacement, 0)
      else if !isContinuation c then (replacement, 1)
      else if !isContinuation d then (replacement, 2)
      else
        (Char.ofNat ((first - 0xf0) * 0x40000 + (b - 0x80) * 0x1000 + (c - 0x80) * 0x40
          + (d - 0x80)), 3)
    -- the text ends within the sequence
    | [b, c] =>
      (replacement, if !mayFollow4 first b then 0 else if isContinuation c then 2 else 1)
    | [b] => (replacement, if mayFollow4 first b then 1 else 0)
    | [] => (replacement, 0)
  else (replacement, 0)

/-- The characters of a list of bytes. -/
def decodeLossy : List Nat → List Char
  | [] => []
  | first :: rest =>
    let (c, count) := decodeAfter first rest
    c :: decodeLossy (rest.drop count)
termination_by bytes => bytes.length
decreasing_by simp only [List.length_drop, List.length_cons]; omega

def bytesOf (c : Char) : List Nat :=
  c.toString.toUTF8.toList.map UInt8.toNat

end SocketGateway.Text
