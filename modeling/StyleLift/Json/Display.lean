import StyleLift.Json.Value
import StyleLift.Number.Decimal
import StyleLift.Text.Quoted

/-! # Values in messages

How messages show a value that need not be text: a string as it is, and everything else in the form
that it has inside a list or an object, where strings are quoted.
-/
namespace StyleLift.Json

mutual

/-- A value inside another. -/
def displayInner : Json → Text
  | .null => "None"
  | .bool b => if b then "True" else "False"
  | .int n => Text.ofInt n
  | .real x => x.shortest
  | .str s => s.quoted
  | .arr items => .char '[' :: Text.joinWith ", " (displayItems items) ++ [.char ']']
  | .obj members => .char '\x7b' :: Text.joinWith ", " (displayMembers members) ++ [.char '\x7d']

def displayItems : List Json → List Text
  | [] => []
  | v :: rest => displayInner v :: displayItems rest

def displayMembers : Members → List Text
  | [] => []
  | (key, v) :: rest => (key.quoted ++ Text.ofString ": " ++ displayInner v) :: displayMembers rest

end

def display : Json → Text
  | .str s => s
  | v => displayInner v

end StyleLift.Json
