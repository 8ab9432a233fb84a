/-!
Contract: the blank texts, those that hold nothing but white space.

Owns:
- the characters of the White_Space property;
- the test whether a text is blank.

Does not own: the white space of a data format, which each format fixes for itself.
-/

namespace SocketGateway.Text

/-- The characters with the White_Space property, as inclusive ranges of code points. -/
def whiteSpaceRanges : List (Nat × Nat) :=
  [(0x9, 0xd), (0x20, 0x20), (0x85, 0x85), (0xa0, 0xa0), (0x1680, 0x1680), (0x2000, 0x200a),
   (0x2028, 0x2029), (0x202f, 0x202f), (0x205f, 0x205f), (0x3000, 0x3000)]

/-- Whether `c` has the White_Space property. -/
def isWhiteSpace (c : Char) : Bool :=
  whiteSpaceRanges.any fun range => range.1 ≤ c.toNat && c.toNat ≤ range.2

/-- A blank text has no character but white space; the empty text is blank. -/
def isBlank (text : String) : Bool :=
  text.toList.all isWhiteSpace

end SocketGateway.Text
