import StyleLift.Text.LetterCase

/-! # Names in kebab case

The form of a component's name in markup: lowercase, with a hyphen before every inner capital and
in the place of every low line.
-/
namespace StyleLift.Component

/-- A code point after the first: a capital starts a new word. -/
def kebabCodePoint (c : CodePoint) : Text :=
  if c.isUpper then .char '-' :: c.lower else c.lower

def hyphenate (c : CodePoint) : CodePoint := if c = .char '_' then .char '-' else c

def kebab : Text → Text
  | [] => []
  | c :: rest => (c.lower ++ rest.flatMap kebabCodePoint).map hyphenate

end StyleLift.Component
