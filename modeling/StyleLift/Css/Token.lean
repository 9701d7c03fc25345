import StyleLift.Text.CodePoint

/-! # Tokens of a style sheet

The lexemes of a text are flat: leaves, opening brackets and closing brackets. Nesting them gives
the tokens, where a block holds what stood between its brackets. A closing bracket closes the
innermost open block or else is a leaf of its own, and the end of the text closes every block.

Every token carries its `mark`, the source text from its first code point on.
-/
namespace StyleLift.Css

inductive Bracket
  | paren
  | square
  | curly
deriving DecidableEq

/-- What opens a block: a bracket, or a function name with its parenthesis. -/
inductive Opener
  | bracket (b : Bracket)
  | function (name : Text)
deriving DecidableEq

/-- A string or a location that the end of the text cuts off is not `closed`. -/
inductive Leaf
  | whitespace (source : Text)
  | literal (source : Text)
  | ident (name : Text)
  | atKeyword (name : Text)
  | hash (name : Text) (identifier : Bool)
  | string (value : Text) (closed : Bool)
  | badString
  | url (value : Text) (closed : Bool)
  | badUrl
  | number (source : Text)
  | percentage (source : Text)
  | dimension (source unit : Text)
  | unicodeRange (first last : Nat)
  | stray (b : Bracket)
deriving DecidableEq

inductive Lexeme
  | leaf (l : Leaf)
  | opening (o : Opener)
  | closing (b : Bracket)

inductive Token
  | leaf (mark : Text) (l : Leaf)
  | block (mark : Text) (opener : Opener) (content : List Token)

def Opener.closer : Opener → Bracket
  | .bracket b => b
  | .function _ => .paren

namespace Token

def mark : Token → Text
  | .leaf mark _ => mark
  | .block mark _ _ => mark

def isWhitespace : Token → Bool
  | .leaf _ (.whitespace _) => true
  | _ => false

def isLiteral (source : Text) : Token → Bool
  | .leaf _ (.literal s) => s == source
  | _ => false

/-- The content of a block in curly brackets. -/
def curly? : Token → Option (List Token)
  | .block _ (.bracket .curly) content => some content
  | _ => none

end Token

/-- A block that is still open, with the tokens before it, the last one first. -/
structure OpenBlock where
  mark : Text
  opener : Opener
  before : List Token

def OpenBlock.close (b : OpenBlock) (content : List Token) : List Token :=
  .block b.mark b.opener content.reverse :: b.before

/-- Closes all open blocks at the end of the text. -/
def closeAll : List Token → List OpenBlock → List Token
  | level, [] => level.reverse
  | level, b :: outer => closeAll (b.close level) outer

/-- Nests lexemes below the open blocks; `level` holds the innermost tokens, the last one first. -/
def nestFrom : List Token → List OpenBlock → List (Text × Lexeme) → List Token
  | level, stack, [] => closeAll level stack
  | level, stack, (mark, .leaf l) :: rest => nestFrom (.leaf mark l :: level) stack rest
  | level, stack, (mark, .opening o) :: rest => nestFrom [] (⟨mark, o, level⟩ :: stack) rest
  | level, [], (mark, .closing c) :: rest => nestFrom (.leaf mark (.stray c) :: level) [] rest
  | level, b :: outer, (mark, .closing c) :: rest =>
    if b.opener.closer = c then nestFrom (b.close level) outer rest
    else nestFrom (.leaf mark (.stray c) :: level) (b :: outer) rest

def nest (lexemes : List (Text × Lexeme)) : List Token := nestFrom [] [] lexemes

end StyleLift.Css
