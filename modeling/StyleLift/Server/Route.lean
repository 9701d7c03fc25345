import StyleLift.Http.Target
import StyleLift.Text.LetterCase

/-! # Routes

The resources that the server knows by their paths, and the methods that each of them answers.
-/
namespace StyleLift.Server

inductive Route
  | health
  | tools
  | tool (name : Text)
  /-- A file below the directory of static files. -/
  | staticFile
deriving DecidableEq

inductive Method
  | get
  | head
  | post
  | options
deriving DecidableEq

namespace Method

def name : Method → Text
  | .get => "GET"
  | .head => "HEAD"
  | .post => "POST"
  | .options => "OPTIONS"

def all : List Method := [.get, .head, .post, .options]

/-- The method for a name in any letter case. -/
def ofName? (name : Text) : Option Method := all.find? (·.name == Text.asciiUpper name)

end Method

namespace Route

/-- Whether steps below the directory of static files name a file. They do not start with a slash
and have no newline after their first code point. -/
def isStaticName : List Text → Bool
  | (_ :: name) :: rest => (name :: rest).all fun step => !step.contains (.char '\n')
  | _ => false

/-- The route of a path's steps after the root. -/
def ofSteps? : List Text → Option Route
  | [] => none
  | area :: steps =>
    if area = Text.ofString "static" then
      if isStaticName steps then some .staticFile else none
    else if area = Text.ofString "api" then
      match steps with
      | [item] =>
        if item = Text.ofString "health" then some .health
        else if item = Text.ofString "tools" then some .tools
        else none
      | [item, name] =>
        if item = Text.ofString "tools" ∧ name ≠ [] then some (.tool name) else none
      | _ => none
    else none

def ofPath? (path : Text) : Option Route := ofSteps? ((Text.splitOn Http.slash path).drop 1)

/-- Whether a method is answered. -/
def allows : Route → Method → Bool
  | .tool _, m => m == .post || m == .options
  | _, m => m != .post

end Route

/-- A path with every run of slashes made one. -/
def mergeSlashes : Text → Text
  | [] => []
  | c :: rest =>
    if c = Http.slash ∧ rest.head? = some Http.slash then mergeSlashes rest
    else c :: mergeSlashes rest

end StyleLift.Server
