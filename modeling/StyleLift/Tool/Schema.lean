import StyleLift.Json.Display
import StyleLift.Run.Fault

/-! # Checking arguments

A tool's parameters are described by an object with the schemas of its properties and the list of
the required ones. Of a property's schema the type "string" and the choices count. Descriptions are
free values, so what has no members to look up or nothing to go through is a fault of its own.
-/
namespace StyleLift

def Fault.noMembers : Fault := .other .noSuchMember "only an object has members"

def Fault.notContainer : Fault := .other .wrongType "the value holds no others"

namespace Json

def member (key : Text) : Json → Except Fault (Option Json)
  | .obj members => .ok (member? key members)
  | _ => .error .noMembers

/-- What a value holds: items, code points or keys. -/
def contents : Json → Except Fault (List Json)
  | .arr items => .ok items
  | .str s => .ok (s.map fun c => .str [c])
  | .obj members => .ok (members.map fun (key, _) => .str key)
  | _ => .error .notContainer

/-- Whether a value holds another: an item, a part of a string, or a key. Arrays and objects cannot
be keys. -/
def holds (container x : Json) : Except Fault Bool :=
  match container, x with
  | .arr items, x => .ok (items.any x.sameAs)
  | .str s, .str part => .ok (Text.occursIn part s)
  | .obj _, .arr _ | .obj _, .obj _ => .error .notContainer
  | .obj members, .str key => .ok (members.any fun (k, _) => k == key)
  | .obj _, _ => .ok false
  | _, _ => .error .notContainer

def isString : Json → Bool
  | .str _ => true
  | _ => false

def isNull : Json → Bool
  | .null => true
  | _ => false

end Json

namespace Schema

def rejected (message : Text) : Fault := .tool ⟨.invalidParams, message, none⟩

def missing (key : Json) : Fault :=
  rejected (Text.ofString "Missing required argument: " ++ key.display)

def notString (key : Text) : Fault :=
  rejected (Text.ofString "Argument " ++ key ++ Text.ofString " must be a string")

def notChoice (key : Text) (choices : List Text) : Fault :=
  rejected (Text.ofString "Argument " ++ key ++ Text.ofString " must be one of: " ++
    Text.joinWith ", " choices)

/-- Choices as a message lists them; all of them have to be strings. -/
def choiceNames (choices : Json) : Except Fault (List Text) := do
  (← choices.contents).mapM fun
    | .str s => .ok s
    | _ => .error .notContainer

/-- A value against the schema of its property. -/
def checkValue (key : Text) (value schema : Json) : Except Fault Unit := do
  let isText := match ← schema.member "type" with
    | some (.str kind) => kind == Text.ofString "string"
    | _ => false
  if isText && !value.isString then throw (notString key)
  match ← schema.member "enum" with
  | none => return
  | some choices =>
    if !(← choices.holds value) then throw (notChoice key (← choiceNames choices))

/-- An argument against the properties. Without a schema, and as the null of an optional argument,
every value passes. -/
def checkArgument (properties required : Json) (key : Text) (value : Json) :
    Except Fault Unit := do
  match ← properties.member key with
  | none | some .null => return
  | some schema =>
    if value.isNull && !(← required.holds (.str key)) then return
    checkValue key value schema

/-- The arguments as members, if they pass: the required ones are looked for first. -/
def check (parameters arguments : Json) : Except Fault Json.Members := do
  let properties := (← parameters.member "properties").getD (.obj [])
  let required := (← parameters.member "required").getD (.arr [])
  (← required.contents).forM fun key => do
    if !(← arguments.holds key) then throw (missing key)
  match arguments with
  | .obj members =>
    members.forM fun (key, value) => checkArgument properties required key value
    return members
  | _ => throw .noMembers

end Schema
end StyleLift
