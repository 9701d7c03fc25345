import StyleLift.Text.Blank
import StyleLift.Text.Quoted

/-! # Box shorthands

The margin and padding shorthands set the sides of a box by position: one value sets all sides,
two set the vertical and the horizontal ones, four go around from the top. Values are split at the
blanks outside parentheses.
-/
namespace StyleLift.Shorthand

def depthAfter (depth : Nat) (c : CodePoint) : Nat :=
  if c = .char '(' then depth + 1 else if c = .char ')' then depth - 1 else depth

/-- Puts a part before others unless it is empty; the part comes with its last code point first. -/
def flush (current : Text) (parts : List Text) : List Text :=
  if current.isEmpty then parts else current.reverse :: parts

def splitFrom (depth : Nat) (current : Text) : Text → List Text
  | [] => flush current []
  | c :: rest =>
    if c.isBlank && depthAfter depth c == 0 then flush current (splitFrom 0 [] rest)
    else splitFrom (depthAfter depth c) (c :: current) rest

/-- The parts of a value. -/
def splitValues (value : Text) : List Text := splitFrom 0 [] value.trim

/-- A value for the sides that a class stem names. -/
structure Part where
  stem : Text
  value : Text
deriving DecidableEq

def boxStem? (property : Text) : Option Text :=
  if property = ("margin" : Text) then some "m"
  else if property = ("padding" : Text) then some "p"
  else none

/-- The parts that a value has for a box. -/
def partsOf (stem value : Text) : List Part :=
  let side (c : Char) : Text := stem ++ [.char c]
  match splitValues value with
  | [a] => [⟨stem, a⟩]
  | [a, b] => [⟨side 'y', a⟩, ⟨side 'x', b⟩]
  | [a, b, c, d] => [⟨side 't', a⟩, ⟨side 'r', b⟩, ⟨side 'b', c⟩, ⟨side 'l', d⟩]
  | _ => [⟨stem, value.trim⟩]

/-- A property that is no box shorthand. -/
structure NotShorthand where
  property : Text
deriving DecidableEq

def NotShorthand.message (e : NotShorthand) : Text :=
  Text.ofString "Not a spacing shorthand: " ++ e.property.quoted

def expand (property value : Text) : Except NotShorthand (List Part) :=
  match boxStem? property with
  | some stem => .ok (partsOf stem value)
  | none => .error ⟨property⟩

end StyleLift.Shorthand
