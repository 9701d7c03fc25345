import StyleLift.Text.Printable

/-! # Quoted text

How messages quote a text: in single quotes, or in double quotes when the text holds a single quote
and no double quote. The quote, the backslash and unprintable code points are escaped.
-/
namespace StyleLift.Text

def quoteMark (s : Text) : CodePoint :=
  if s.contains (.char '\'') && !s.contains (.char '"') then .char '"' else .char '\''

/-- Two, four or eight hexadecimal digits, as few as the number needs. -/
def numericEscape (n : Nat) : Text :=
  if n < 0x100 then ofString "\\x" ++ paddedHex 2 n
  else if n < 0x10000 then ofString "\\u" ++ paddedHex 4 n
  else ofString "\\U" ++ paddedHex 8 n

def quotedCodePoint (mark c : CodePoint) : Text :=
  if c = mark ∨ c = .char '\\' then [.char '\\', c]
  else if c = .char '\n' then ofString "\\n"
  else if c = .char '\r' then ofString "\\r"
  else if c = .char '\t' then ofString "\\t"
  else if c.isPrintable then [c]
  else numericEscape c.val

def quoted (s : Text) : Text :=
  let mark := quoteMark s
  mark :: s.flatMap (quotedCodePoint mark) ++ [mark]

/-- A list of texts in square brackets, each of them quoted. -/
def quotedList (texts : List Text) : Text :=
  ofString "[" ++ joinWith (ofString ", ") (texts.map quoted) ++ ofString "]"

end StyleLift.Text
