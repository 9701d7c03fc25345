import StyleLift.Text.Blank

/-! # Styled components

Styles behind the import line of the styled-components package, with every line trimmed.
-/
namespace StyleLift.Component

def styledImport : Text := "import styled from 'styled-components';"

/-- Every line without the blanks at its ends; only a newline ends a line. -/
def trimLines (styles : Text) : Text :=
  Text.joinWith [.char '\n'] ((Text.splitOn (.char '\n') styles).map Text.trim)

def styledSheet (styles : Text) : Text :=
  styledImport ++ Text.ofString "\n\n" ++ trimLines styles

end StyleLift.Component
