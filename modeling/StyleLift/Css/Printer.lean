import StyleLift.Css.Escape
import StyleLift.Css.Token

/-! # Writing tokens

The text of tokens, escaped so that each reads back as itself. An empty comment parts two tokens
that would read as one, and a newline parts a lone backslash from what follows.
-/
namespace StyleLift.Css

def lineEscape? (c : CodePoint) : Option Text :=
  if c = .char '\n' then some "\\A "
  else if c = .char '\r' then some "\\D "
  else if c = .char '\x0c' then some "\\C "
  else none

def writeNamePart (c : CodePoint) : Text :=
  if isNamePart c then [c] else (lineEscape? c).getD [.char '\\', c]

def writeName (name : Text) : Text := name.flatMap writeNamePart

def writeNameStart (c : CodePoint) : Text :=
  if isNameStart c then [c]
  else if c.isAsciiDigit then .char '\\' :: Text.upperHexDigits c.val ++ [.char ' ']
  else (lineEscape? c).getD [.char '\\', c]

def writeIdent : Text → Text
  | [] => []
  | [.char '-'] => "\\-"
  | .char '-' :: .char '-' :: rest => .char '-' :: .char '-' :: writeName rest
  | .char '-' :: c :: rest => .char '-' :: writeNameStart c ++ writeName rest
  | c :: rest => writeNameStart c ++ writeName rest

/-- A unit that would read as an exponent has its first letter escaped. -/
def writeUnit : Text → Text
  | c :: rest =>
    if (c = .char 'e' ∨ c = .char 'E') ∧ (rest = [] ∨ Text.startsWith rest "-") then
      Text.ofString "\\65 " ++ writeName rest
    else writeIdent (c :: rest)
  | [] => []

def writeStringPart (c : CodePoint) : Text :=
  if c = .char '"' ∨ c = .char '\\' then [.char '\\', c] else (lineEscape? c).getD [c]

def writeUrlPart (c : CodePoint) : Text :=
  if c = .char '\t' then "\\9 "
  else if c = .char '\'' ∨ c = .char '"' ∨ c = .char '\\' ∨ c = .char ' ' ∨ c = .char '(' ∨
      c = .char ')' then [.char '\\', c]
  else (lineEscape? c).getD [c]

def closingMark : Bracket → CodePoint
  | .paren => .char ')'
  | .square => .char ']'
  | .curly => .char '\x7d'

def openingMark : Bracket → CodePoint
  | .paren => .char '('
  | .square => .char '['
  | .curly => .char '\x7b'

def Leaf.write : Leaf → Text
  | .whitespace source | .literal source | .number source => source
  | .ident name => writeIdent name
  | .atKeyword name => .char '@' :: writeIdent name
  | .hash name identifier => .char '#' :: if identifier then writeIdent name else writeName name
  | .string value closed =>
    .char '"' :: value.flatMap writeStringPart ++ if closed then [.char '"'] else []
  | .badString => "\"[bad string]\n"
  | .url value closed =>
    Text.ofString "url(" ++ value.flatMap writeUrlPart ++ if closed then [.char ')'] else []
  | .badUrl => "url([bad url])"
  | .percentage source => source ++ [.char '%']
  | .dimension source unit => source ++ writeUnit unit
  | .unicodeRange first last =>
    Text.ofString "U+" ++ Text.upperHexDigits first ++
      if first = last then [] else .char '-' :: Text.upperHexDigits last
  | .stray b => [closingMark b]

def Opener.write : Opener → Text
  | .bracket b => [openingMark b]
  | .function name => writeIdent name ++ [.char '(']

/-! ## Between two tokens -/

/-- What decides whether two neighbours would run together. -/
inductive Shape
  | ident
  | atKeyword
  | hash
  | number
  | percentage
  | dimension
  | url
  | function
  | unicodeRange
  | parens
  | mark (source : Text)
  | other
deriving DecidableEq

def Token.shape : Token → Shape
  | .leaf _ (.ident _) => .ident
  | .leaf _ (.atKeyword _) => .atKeyword
  | .leaf _ (.hash _ _) => .hash
  | .leaf _ (.number _) => .number
  | .leaf _ (.percentage _) => .percentage
  | .leaf _ (.dimension _ _) => .dimension
  | .leaf _ (.url _ _) => .url
  | .leaf _ (.unicodeRange _ _) => .unicodeRange
  | .leaf _ (.literal source) => .mark source
  | .block _ (.function _) _ => .function
  | .block _ (.bracket .paren) _ => .parens
  | _ => .other

def Shape.startsWord : Shape → Bool
  | .ident | .function | .url => true
  | _ => false

def Shape.startsNumber : Shape → Bool
  | .number | .percentage | .dimension => true
  | _ => false

def Shape.isMark (s : Shape) (c : Char) : Bool := s == .mark [.char c]

/-- Whether two neighbours must be kept apart. -/
def runTogether (a b : Shape) : Bool :=
  match a with
  | .ident =>
    b.startsWord || b.startsNumber || b == .unicodeRange || b.isMark '-' || b == .mark "-->" ||
      b == .parens
  | .atKeyword | .hash | .dimension =>
    b.startsWord || b.startsNumber || b == .unicodeRange || b.isMark '-' || b == .mark "-->"
  | .number => b.startsWord || b.startsNumber || b == .unicodeRange
  | .unicodeRange => b.startsNumber || b == .ident || b == .function || b.isMark '?'
  | a =>
    if a.isMark '#' || a.isMark '-' then b.startsWord || b.startsNumber || b == .unicodeRange
    else if a.isMark '@' then b.startsWord || b == .unicodeRange || b.isMark '-'
    else if a.isMark '.' || a.isMark '+' then b.startsNumber
    else if a.isMark '|' then b.isMark '=' || b.isMark '|'
    else if a.isMark '$' || a.isMark '*' || a.isMark '^' || a.isMark '~' then b.isMark '='
    else a.isMark '/' && b.isMark '*'

def Token.startsWithNewline : Token → Bool
  | .leaf _ (.whitespace (.char '\n' :: _)) => true
  | _ => false

/-- What is written between two neighbours. -/
def separator (a b : Token) : Text :=
  if runTogether a.shape b.shape then "/**/"
  else if a.shape.isMark '\\' && !b.startsWithNewline then "\n"
  else []

mutual

/-- Whether a string cut off by the end of the text stands last, in the innermost function. -/
def Token.endsInOpenString : Token → Bool
  | .leaf _ (.string _ closed) => !closed
  | .block _ (.function _) content => levelEndsInOpenString content
  | _ => false

def levelEndsInOpenString : List Token → Bool
  | [] => false
  | [t] => t.endsInOpenString
  | _ :: rest => levelEndsInOpenString rest

end

mutual

def Token.write : Token → Text
  | .leaf _ l => l.write
  | .block _ opener content =>
    opener.write ++ writeTokens content ++
      match opener with
      | .bracket b => [closingMark b]
      | .function _ => if levelEndsInOpenString content then [] else [.char ')']

/-- The text of neighbouring tokens. -/
def writeTokens : List Token → Text
  | [] => []
  | t :: rest =>
    t.write ++ (match rest with | [] => [] | next :: _ => separator t next) ++ writeTokens rest

end

end StyleLift.Css
