import StyleLift.Css.Stylesheet
import StyleLift.Utility.Candidate
import StyleLift.Verify.ClassSelector
import StyleLift.Verify.Compiler

/-! # Verification

Every rule becomes a placeholder rule with the declarations it had. The compiler gets their sheet
and the document, and a candidate class is confirmed if the compiled text has a selector for it.
-/
namespace StyleLift

/-- The rules of a text, with a remark in the log where one is left unfinished. -/
def readRules (css : Text) : Action (List Rule) := do
  let sheet ← Action.ofExcept .numeral (Css.read css)
  sheet.unfinished.forM fun p => Action.log .debug p.remark
  return sheet.rules

/-- The placeholder rule for the rule at an index. -/
def placeholderRule (index : Nat) (r : Rule) : Text :=
  Text.ofString "." ++ ClassSelector.placeholder ++ Text.ofString "-" ++ Text.ofNat index ++
    Text.ofString " \x7b " ++ Text.joinWith "; " (r.declarations.map Declaration.toCss) ++
    Text.ofString " \x7d"

/-- The sheet that is compiled for some rules. -/
def syntheticStylesheet (rules : List Rule) : Text :=
  Text.joinWith [.char '\n']
    (Text.ofString "@tailwind utilities;" ::
      rules.mapIdx placeholderRule)

/-- The classes that the compiler emitted, and those of them that are candidates. -/
structure Verification where
  compiled : List Text
  confirmed : List Text
deriving DecidableEq

/-- The candidate classes of some rules, each once. -/
def candidateClasses (rules : List Rule) : Except NumeralError (List Text) := do
  let suggested ← rules.mapM Rule.suggestedClasses
  return suggested.flatten.eraseDups

def verify (html : Text) (rules : List Rule) (compiler : Compiler) : Action Verification := do
  let css ← compiler.request (syntheticStylesheet rules) [html]
  let compiled := ClassSelector.names css
  let candidates ← Action.ofExcept .numeral (candidateClasses rules)
  let confirmed := compiled.filter candidates.contains
  Action.log .debug (Text.ofString "Compiler emitted " ++ Text.ofNat compiled.length ++
    Text.ofString " classes, " ++ Text.ofNat confirmed.length ++ Text.ofString " of " ++
    Text.ofNat candidates.length ++ Text.ofString " candidates confirmed")
  return ⟨compiled, confirmed⟩

end StyleLift
