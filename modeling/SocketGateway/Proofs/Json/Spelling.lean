import Std.Data.String.ToNat
import SocketGateway.Json.Text

/-!
Contract: tokens are read from text as they are spelled.

Owns:
- strings, whose characters may be any, and integers, which end where no digit follows;
- rows of such tokens, spelled without space between them.

Does not own: floats, or what tokens mean.
-/

namespace SocketGateway.Json

/-! ### Strings -/

/-- One more piece before those that were read. -/
def consPiece (piece : Piece) (read : List Piece × List Char) : List Piece × List Char :=
  (piece :: read.1, read.2)

private theorem readPieces?_letter {letter value : Char} (writes : escaped? letter = some value)
    (rest : List Char) :
    readPieces? ('\\' :: letter :: rest) = (readPieces? rest).map (consPiece (.char value)) := by
  have notUnit : letter ≠ 'u' := by
    rintro rfl
    cases writes
  rw [readPieces?]
  · rw [writes]
    cases readPieces? rest <;> rfl
  · intro a b c d more isUnit
    exact absurd isUnit notUnit

private theorem readPieces?_unit {a b c d : Char} {unit : Nat}
    (names : hexNumber? a b c d = some unit) (rest : List Char) :
    readPieces? ('\\' :: 'u' :: a :: b :: c :: d :: rest) =
      (readPieces? rest).map (consPiece (Piece.ofUnit unit)) := by
  rw [readPieces?, names]
  cases readPieces? rest <;> rfl

private theorem readPieces?_plain {c : Char} (notQuote : c ≠ '"') (notBackslash : c ≠ '\\')
    (notControl : ¬ c.toNat < 0x20) (rest : List Char) :
    readPieces? (c :: rest) = (readPieces? rest).map (consPiece (.char c)) := by
  rw [readPieces?, if_neg (by simp [notBackslash, notControl])]
  · cases readPieces? rest <;> rfl
  · exact notQuote
  · intro a b c d more isBackslash
    exact absurd isBackslash notBackslash
  · intro letter more isBackslash
    exact absurd isBackslash notBackslash

/-- The number that the escape of a control character names is read as that character. -/
theorem hexNumber?_control : ∀ n < 0x20, ∃ a b c d, hex4 n = [a, b, c, d] ∧
    hexNumber? a b c d = some n ∧ Piece.ofUnit n = .char (Char.ofNat n) := by
  intro n small
  refine ⟨_, _, _, _, rfl, ?_⟩
  revert n
  decide

/-- A character that is written in a string is read from it. -/
theorem readPieces?_escapeChar (c : Char) (rest : List Char) :
    readPieces? (escapeChar c ++ rest) = (readPieces? rest).map (consPiece (.char c)) := by
  unfold escapeChar
  split
  · next isQuote =>
    rw [isQuote]
    exact readPieces?_letter rfl rest
  next notQuote =>
  split
  · next isBackslash =>
    rw [isBackslash]
    exact readPieces?_letter rfl rest
  next notBackslash =>
  split
  · next isBackspace => exact isBackspace ▸ readPieces?_letter rfl rest
  split
  · next isFormFeed => exact isFormFeed ▸ readPieces?_letter rfl rest
  split
  · next isLineFeed => exact isLineFeed ▸ readPieces?_letter rfl rest
  split
  · next isReturn => exact isReturn ▸ readPieces?_letter rfl rest
  split
  · next isTab => exact isTab ▸ readPieces?_letter rfl rest
  split
  · next isControl =>
    obtain ⟨first, second, third, fourth, digits, names, isPiece⟩ := hexNumber?_control _ isControl
    rw [digits]
    refine (readPieces?_unit names rest).trans ?_
    rw [isPiece, Char.ofNat_toNat]
  · next notControl => exact readPieces?_plain notQuote notBackslash notControl rest

private theorem readPieces?_chars (cs rest : List Char) :
    readPieces? ((cs.map Piece.char).flatMap Piece.chars ++ '"' :: rest) =
      some (cs.map Piece.char, rest) := by
  induction cs with
  | nil => simp [readPieces?]
  | cons c cs inductionHypothesis =>
    rw [List.map_cons, List.flatMap_cons, List.append_assoc, Piece.chars, readPieces?_escapeChar,
      inductionHypothesis]
    rfl

/-! ### Integers -/

/-- The text does not go on with a number. -/
def Stops (text : List Char) : Prop :=
  ∀ c rest, text = c :: rest → c.isDigit = false ∧ c ≠ '.' ∧ c ≠ 'e' ∧ c ≠ 'E'

private theorem spanDigits_append {digits rest : List Char}
    (areDigits : ∀ c ∈ digits, c.isDigit = true) (stops : Stops rest) :
    spanDigits (digits ++ rest) = (digits, rest) := by
  have ends : rest.takeWhile Char.isDigit = [] ∧ rest.dropWhile Char.isDigit = rest := by
    cases rest with
    | nil => exact ⟨rfl, rfl⟩
    | cons c rest => simp [(stops c rest rfl).1]
  rw [spanDigits, List.takeWhile_append_of_pos areDigits, List.dropWhile_append_of_pos areDigits,
    ends.1, ends.2, List.append_nil]

private theorem digitChar_ne_zero : ∀ n < 10, 0 < n → Nat.digitChar n ≠ '0' := by decide

/-- A positive number is not written with a leading zero. -/
theorem toDigits_of_pos {n : Nat} (positive : 0 < n) :
    ∃ first rest, Nat.toDigits 10 n = first :: rest ∧ first ≠ '0' := by
  induction n using Nat.strongRecOn with
  | ind n inductionHypothesis =>
    by_cases small : n < 10
    · exact ⟨Nat.digitChar n, [], Nat.toDigits_of_lt_base small, digitChar_ne_zero n small positive⟩
    · obtain ⟨first, rest, digits, notZero⟩ :=
        inductionHypothesis (n / 10) (by omega) (by omega)
      refine ⟨first, rest ++ [Nat.digitChar (n % 10)], ?_, notZero⟩
      rw [Nat.toDigits_of_base_le (by decide) (by omega), digits]
      rfl

private theorem isDigit_toDigits {n : Nat} {c : Char} (isDigit : c ∈ Nat.toDigits 10 n) :
    c.isDigit = true :=
  Nat.isDigit_of_mem_toDigits (by decide) (by decide) isDigit

private theorem readWhole?_toDigits (n : Nat) {rest : List Char} (stops : Stops rest) :
    readWhole? (Nat.toDigits 10 n ++ rest) = some (Nat.toDigits 10 n, rest) := by
  rcases Nat.eq_zero_or_pos n with rfl | positive
  · rfl
  · have span : spanDigits (Nat.toDigits 10 n ++ rest) = (Nat.toDigits 10 n, rest) :=
      spanDigits_append (fun _ => isDigit_toDigits) stops
    obtain ⟨first, more, digits, notZero⟩ := toDigits_of_pos positive
    rw [digits] at span ⊢
    rw [List.cons_append] at span ⊢
    rw [readWhole?, span]
    intro others isZero
    exact notZero (List.cons.inj isZero).1

private theorem readFraction?_stops {rest : List Char} (stops : Stops rest) :
    readFraction? rest = some (none, rest) := by
  cases rest with
  | nil => rfl
  | cons c rest =>
    rw [readFraction?]
    intro others isPoint
    exact (stops c rest rfl).2.1 (List.cons.inj isPoint).1

private theorem readExponent?_stops {rest : List Char} (stops : Stops rest) :
    readExponent? rest = some (none, rest) := by
  cases rest with
  | nil => rfl
  | cons c rest =>
    obtain ⟨-, -, notSmall, notCapital⟩ := stops c rest rfl
    rw [readExponent?, if_neg (not_or.mpr ⟨notSmall, notCapital⟩)]

private theorem chars_ofInt (value : Int) : (Literal.ofInt value).chars =
    (if value < 0 then ['-'] else []) ++ Nat.toDigits 10 value.natAbs := by
  simp [Literal.chars, Literal.ofInt]

private theorem toDigits_cons (n : Nat) :
    ∃ first rest, Nat.toDigits 10 n = first :: rest ∧ first.isDigit = true := by
  cases digits : Nat.toDigits 10 n with
  | nil => exact absurd digits Nat.toDigits_ne_nil
  | cons first rest =>
    exact ⟨first, rest, rfl, isDigit_toDigits (by rw [digits]; exact List.mem_cons_self)⟩

private theorem readMinus_ofInt (value : Int) (rest : List Char) :
    readMinus ((Literal.ofInt value).chars ++ rest) =
      (decide (value < 0), Nat.toDigits 10 value.natAbs ++ rest) := by
  rw [chars_ofInt]
  by_cases negative : value < 0
  · simp [negative, readMinus]
  · obtain ⟨first, more, digits, isDigit⟩ := toDigits_cons value.natAbs
    rw [if_neg negative, digits, List.nil_append, List.cons_append, readMinus]
    · simp [negative]
    · intro others isMinus
      cases isMinus
      cases isDigit

/-- The literal of an integer is read as it is written. -/
theorem readLiteral?_ofInt (value : Int) {rest : List Char} (stops : Stops rest) :
    readLiteral? ((Literal.ofInt value).chars ++ rest) = some (Literal.ofInt value, rest) := by
  simp [readLiteral?, readMinus_ofInt, readWhole?_toDigits _ stops, readFraction?_stops stops,
    readExponent?_stops stops]
  rfl

/-! ### Tokens -/

/-- A token that is spelled as it is read: no float, and no half characters. -/
def Token.Plain : Token → Prop
  | .number literal => ∃ value, literal = .ofInt value
  | .text pieces => ∃ cs : List Char, pieces = cs.map .char
  | _ => True

/-- What a literal of an integer begins with. -/
theorem chars_ofInt_cons (value : Int) : ∃ c cs, (Literal.ofInt value).chars = c :: cs ∧
    (c = '-' ∨ c.isDigit = true) := by
  rw [chars_ofInt]
  split
  · exact ⟨'-', _, rfl, Or.inl rfl⟩
  · obtain ⟨first, more, digits, isDigit⟩ := toDigits_cons value.natAbs
    exact ⟨first, more, digits, Or.inr isDigit⟩

private theorem readToken?_number {c : Char} (begins : c = '-' ∨ c.isDigit = true)
    (rest : List Char) :
    isSpace c = false ∧
      readToken? c rest =
        (readLiteral? (c :: rest)).map fun read => (.number read.1, read.2) := by
  have different : ∀ other : Char, other ≠ '-' → other.isDigit = false → c ≠ other := by
    rintro other notMinus notDigit rfl
    rcases begins with isMinus | isDigit
    · exact notMinus isMinus
    · rw [isDigit] at notDigit
      cases notDigit
  constructor
  · simp [isSpace, different ' ' (by decide) (by decide), different '\t' (by decide) (by decide),
      different '\n' (by decide) (by decide), different '\r' (by decide) (by decide)]
  · rw [readToken?]
    all_goals exact different _ (by decide) (by decide)

/-- A token is read from its spelling, and what follows is left over. -/
theorem readToken?_chars {token : Token} (plain : token.Plain) {rest : List Char}
    (stops : ∀ literal, token = .number literal → Stops rest) :
    ∃ c cs, token.chars = c :: cs ∧ isSpace c = false ∧
      readToken? c (cs ++ rest) = some (token, rest) := by
  cases token with
  | openBrace | closeBrace | openBracket | closeBracket | colon | comma =>
    exact ⟨_, [], rfl, rfl, rfl⟩
  | word keyword => cases keyword <;> exact ⟨_, _, rfl, rfl, rfl⟩
  | number literal =>
    obtain ⟨value, rfl⟩ := plain
    obtain ⟨c, cs, chars, begins⟩ := chars_ofInt_cons value
    obtain ⟨notSpace, read⟩ := readToken?_number begins (cs ++ rest)
    refine ⟨c, cs, chars, notSpace, ?_⟩
    rw [read, ← List.cons_append, ← chars, readLiteral?_ofInt value (stops _ rfl)]
    rfl
  | text pieces =>
    obtain ⟨cs, rfl⟩ := plain
    refine ⟨'"', _, rfl, rfl, ?_⟩
    rw [readToken?, List.append_assoc, List.singleton_append, readPieces?_chars]
    rfl

/-- Tokens that can be told from each other in their spelling. -/
inductive Cuttable : List Token → Prop where
  | nil : Cuttable []
  | cons {token : Token} {rest : List Token} (plain : token.Plain)
      (stops : ∀ literal, token = .number literal → Stops (rest.flatMap Token.chars))
      (cuttable : Cuttable rest) : Cuttable (token :: rest)

private theorem tokensWithin?_chars {tokens : List Token} (cuttable : Cuttable tokens) {limit : Nat}
    (enough : (tokens.flatMap Token.chars).length ≤ limit) :
    tokensWithin? limit (tokens.flatMap Token.chars) = some tokens := by
  induction cuttable generalizing limit with
  | nil => cases limit <;> rfl
  | @cons token rest plain stops cuttable inductionHypothesis =>
    obtain ⟨c, cs, chars, notSpace, read⟩ := readToken?_chars plain stops
    rw [List.flatMap_cons, chars, List.cons_append] at enough ⊢
    rw [List.length_cons, List.length_append] at enough
    obtain ⟨fewer, rfl⟩ : ∃ fewer, limit = fewer + 1 := ⟨limit - 1, by omega⟩
    have others : tokensWithin? fewer (rest.flatMap Token.chars) = some rest :=
      inductionHypothesis (by omega)
    rw [tokensWithin?, notSpace, read]
    simp [others]

theorem tokens?_chars {tokens : List Token} (cuttable : Cuttable tokens) :
    tokens? (tokens.flatMap Token.chars) = some tokens :=
  tokensWithin?_chars cuttable (Nat.le_refl _)

end SocketGateway.Json
