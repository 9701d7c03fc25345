import StyleLift.Text.CodePoint

/-! # Declarations and rules

A rule pairs a selector with its declarations in source order. Collapsing keeps one declaration for
each property: at the place of the first, with the value of the last.
-/
namespace StyleLift

structure Declaration where
  property : Text
  value : Text
  important : Bool
deriving DecidableEq, Inhabited

structure Rule where
  selector : Text
  declarations : List Declaration
deriving DecidableEq, Inhabited

/-- The declaration as a line of a style sheet, without the semicolon. -/
def Declaration.toCss (d : Declaration) : Text :=
  d.property ++ Text.ofString ": " ++ d.value ++
    (if d.important then Text.ofString " !important" else [])

/-- Puts a declaration in the place of the one with its property, or at the end. -/
def override (d : Declaration) : List Declaration → List Declaration
  | [] => [d]
  | e :: rest => if e.property = d.property then d :: rest else e :: override d rest

def collapse (declarations : List Declaration) : List Declaration :=
  declarations.foldl (fun kept d => override d kept) []

def Rule.effectiveDeclarations (r : Rule) : List Declaration := collapse r.declarations

end StyleLift
