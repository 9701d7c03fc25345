import StyleLift.Json.Printer
import StyleLift.Run.Fault
import StyleLift.Utility.Candidate

/-! # Result bundles

All that one extraction produced. As JSON, rules with one selector are merged in source order; the
confirmed classes or the error are present where there are any.
-/
namespace StyleLift

/-- A rule with its candidates. -/
structure Entry where
  rule : Rule
  candidates : List Candidate
deriving DecidableEq

def Entry.classes (e : Entry) : List Text := e.candidates.flatMap Candidate.classes

/-- A description of a failed verification. -/
structure ProcessingError where
  message : Text
  code : Text
  details : Json

structure Bundle where
  existingClasses : List Text
  entries : List Entry
  confirmedClasses : Option (List Text)
  error : Option ProcessingError

/-- Lists by their keys, in the order of the keys' first use. -/
abbrev Groups := List (Text × List Text)

/-- Adds to the list of a key. -/
def addToGroup (key : Text) (items : List Text) : Groups → Groups
  | [] => [(key, items)]
  | (k, found) :: rest =>
    if k = key then (k, found ++ items) :: rest else (k, found) :: addToGroup key items rest

namespace Bundle

def candidateClasses (b : Bundle) : List Text := (b.entries.flatMap Entry.classes).eraseDups

/-- The lists of the entries, joined for each selector. -/
def group (itemsOf : Entry → List Text) (entries : List Entry) : Groups :=
  entries.foldl (fun groups e => addToGroup e.rule.selector (itemsOf e) groups) []

/-- The declarations of every selector, as they were written. -/
def declarationGroups (b : Bundle) : Groups :=
  group (fun e => e.rule.declarations.map Declaration.toCss) b.entries

/-- The candidate classes of every selector. -/
def suggestionGroups (b : Bundle) : Groups := group Entry.classes b.entries

end Bundle

namespace Json

def texts (items : List Text) : Json := .arr (items.map .str)

def groups (g : Groups) : Json := .obj (g.map fun (key, items) => (key, texts items))

end Json

def ProcessingError.toJson (e : ProcessingError) : Json :=
  .obj [("message", .str e.message), ("code", .str e.code), ("details", e.details)]

/-- The members that are there only where verification was completed, or failed. -/
def Bundle.outcomeMembers (b : Bundle) : Json.Members :=
  (match b.confirmedClasses with
    | some confirmed => [("extractedClasses", Json.texts (Text.sorted confirmed))]
    | none => []) ++
  match b.error with
    | some e => [("error", e.toJson)]
    | none => []

def Bundle.toMembers (b : Bundle) : Json.Members :=
  ("existingClasses", Json.texts b.existingClasses) ::
    ("cssToTailwind", Json.groups b.declarationGroups) ::
    ("tailwindSuggestions", Json.groups b.suggestionGroups) :: b.outcomeMembers

def Bundle.toJson (b : Bundle) : Json := .obj b.toMembers

end StyleLift
