import StyleLift.Css.Rule
import StyleLift.Utility.Pixels
import StyleLift.Utility.Scale
import StyleLift.Utility.Shorthand

/-! # Candidates

The utility classes for a declaration: by its scale where the value is on one, and else with the
value in brackets. A candidate is confirmed once one of its classes has been seen.
-/
namespace StyleLift

/-- A class with its value in brackets. -/
def arbitraryClass (stem value : Text) : Text :=
  stem ++ Text.ofString "-[" ++ value ++ [.char ']']

def spacingClass (value stem : Text) : Except NumeralError Text := do
  match (← pixels? value).bind spacingScale.lookup? with
  | some step => return stem ++ [.char '-'] ++ step
  | none => return arbitraryClass stem value

def fontSizeClass (value : Text) : Except NumeralError Text := do
  match (← pixels? value).bind typeScale.lookup? with
  | some size => return Text.ofString "text-" ++ size
  | none => return arbitraryClass "text" value

/-- How the classes of a property are found. -/
inductive Utility
  | color (stem : Text)
  | box (stem : Text)
  | side (stem : Text)
  | fontSize
  | fontWeight
  | display
  | other
deriving DecidableEq

def utilities : List (Text × Utility) := [
  ("color", .color "text"), ("background-color", .color "bg"), ("margin", .box "m"),
  ("padding", .box "p"), ("margin-top", .side "mt"), ("margin-right", .side "mr"),
  ("margin-bottom", .side "mb"), ("margin-left", .side "ml"), ("font-size", .fontSize),
  ("font-weight", .fontWeight), ("display", .display)]

def utilityOf (property : Text) : Utility := (utilities.lookup property).getD .other

/-- The classes for a property and its value, in order. -/
def classesOf (property value : Text) : Except NumeralError (List Text) :=
  match utilityOf property with
  | .color stem => .ok [(color? value stem).getD (arbitraryClass stem value)]
  | .box stem => (Shorthand.partsOf stem value).mapM fun part => spacingClass part.value part.stem
  | .side stem => (spacingClass value stem).map ([·])
  | .fontSize => (fontSizeClass value).map ([·])
  | .fontWeight => .ok [(fontWeight? value).getD (arbitraryClass "font" value)]
  | .display => .ok [(display? value).getD (arbitraryClass property value)]
  | .other => .ok [arbitraryClass property value]

structure Candidate where
  declaration : Declaration
  classes : List Text
  confirmed : Bool
deriving DecidableEq

namespace Candidate

def ofDeclaration (d : Declaration) : Except NumeralError Candidate :=
  (classesOf d.property d.value).map fun classes => ⟨d, classes, false⟩

/-- Confirmed if one of its classes was seen, and only then. -/
def confirm (c : Candidate) (seen : List Text) : Candidate :=
  { c with confirmed := c.classes.any seen.contains }

end Candidate

/-- One candidate for each effective declaration. -/
def Rule.candidates (r : Rule) : Except NumeralError (List Candidate) :=
  r.effectiveDeclarations.mapM Candidate.ofDeclaration

def Rule.suggestedClasses (r : Rule) : Except NumeralError (List Text) :=
  (r.candidates).map fun found => found.flatMap Candidate.classes

end StyleLift
