import SocketGateway.Json.Scan

/-!
Contract: JSON text as a tree of what is written.

Owns:
- the tree, which keeps repeated keys, spellings of numbers and half characters;
- assembling a tree from tokens, at any depth;
- the tokens of a tree, and the tree of a text.

Does not own: the values that a tree stands for, or any limit on them.
-/

namespace SocketGateway.Json

/-- What a JSON text says, before it is given a meaning. -/
inductive Tree where
  | word (keyword : Keyword)
  | number (literal : Literal)
  | string (pieces : List Piece)
  | array (items : List Tree)
  | object (members : List (List Piece × Tree))
deriving Inhabited

/-- An array or object that is still open; what it holds so far stands in reverse order. -/
inductive OpenTree where
  | array (done : List Tree)
  | object (done : List (List Piece × Tree)) (key : List Piece)

/-- What may come next. -/
inductive Phase where
  | value
  /-- A value, or the end of an array just opened. -/
  | itemOrEnd
  /-- A key, or the end of an object just opened. -/
  | keyOrEnd
  /-- A key of an object that has these members. -/
  | key (done : List (List Piece × Tree))
  /-- The colon after a key. -/
  | colon (done : List (List Piece × Tree)) (key : List Piece)
  /-- The comma or the bracket after a finished value; without an open bracket, nothing. -/
  | after (finished : Tree)

/-- How far assembling has come: the open arrays and objects, innermost first, and what may come
next. -/
structure Assembly where
  opened : List OpenTree := []
  phase : Phase := .value

/-- The assembly in which `finished` takes the place of the expected value. -/
def Assembly.finish (opened : List OpenTree) (finished : Tree) : Assembly :=
  ⟨opened, .after finished⟩

/-- Begins a value with `token`. -/
def Assembly.begin? (opened : List OpenTree) : Token → Option Assembly
  | .word keyword => some (finish opened (.word keyword))
  | .number literal => some (finish opened (.number literal))
  | .text pieces => some (finish opened (.string pieces))
  | .openBracket => some ⟨.array [] :: opened, .itemOrEnd⟩
  | .openBrace => some ⟨opened, .keyOrEnd⟩
  | _ => none

def Assembly.step? (state : Assembly) (token : Token) : Option Assembly :=
  match state.phase, token with
  | .value, token => begin? state.opened token
  | .itemOrEnd, .closeBracket =>
    match state.opened with
    | .array _ :: opened => some (finish opened (.array []))
    | _ => none
  | .itemOrEnd, token => begin? state.opened token
  | .keyOrEnd, .closeBrace => some (finish state.opened (.object []))
  | .keyOrEnd, .text key => some ⟨state.opened, .colon [] key⟩
  | .key done, .text key => some ⟨state.opened, .colon done key⟩
  | .colon done key, .colon => some ⟨.object done key :: state.opened, .value⟩
  | .after finished, token =>
    match state.opened, token with
    | .array done :: opened, .comma => some ⟨.array (finished :: done) :: opened, .value⟩
    | .array done :: opened, .closeBracket =>
      some (finish opened (.array (finished :: done).reverse))
    | .object done key :: opened, .comma => some ⟨opened, .key ((key, finished) :: done)⟩
    | .object done key :: opened, .closeBrace =>
      some (finish opened (.object ((key, finished) :: done).reverse))
    | _, _ => none
  | _, _ => none

def Assembly.run? : Assembly → List Token → Option Assembly
  | state, [] => some state
  | state, token :: rest => do (← state.step? token).run? rest

/-- The tree of an assembly to which nothing is missing. -/
def Assembly.tree? : Assembly → Option Tree
  | ⟨[], .after finished⟩ => some finished
  | _ => none

/-- The tree that these tokens spell, all of them together. -/
def Tree.ofTokens? (tokens : List Token) : Option Tree := do
  (← Assembly.run? {} tokens).tree?

/-- The tree that a JSON text spells. -/
def Tree.ofChars? (cs : List Char) : Option Tree := do
  Tree.ofTokens? (← tokens? cs)

mutual

def Tree.tokens : Tree → List Token
  | .word keyword => [.word keyword]
  | .number literal => [.number literal]
  | .string pieces => [.text pieces]
  | .array [] => [.openBracket, .closeBracket]
  | .array (item :: rest) => .openBracket :: (item.tokens ++ itemsTokens rest)
  | .object [] => [.openBrace, .closeBrace]
  | .object ((key, value) :: rest) =>
    .openBrace :: .text key :: .colon :: (value.tokens ++ membersTokens rest)

/-- The further items of an array, up to its end. -/
def itemsTokens : List Tree → List Token
  | [] => [.closeBracket]
  | item :: rest => .comma :: (item.tokens ++ itemsTokens rest)

/-- The further members of an object, up to its end. -/
def membersTokens : List (List Piece × Tree) → List Token
  | [] => [.closeBrace]
  | (key, value) :: rest => .comma :: .text key :: .colon :: (value.tokens ++ membersTokens rest)

end

end SocketGateway.Json
