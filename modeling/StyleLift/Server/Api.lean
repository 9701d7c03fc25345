import StyleLift.Http.ContentType
import StyleLift.Json.Encoding
import StyleLift.Json.Printer
import StyleLift.Run.Settings
import StyleLift.Server.Page
import StyleLift.Server.Route
import StyleLift.Tool.Registry

/-! # The API

Answers to requests: the state of the server, the list of tools, and tool calls. Every resource of
the API may be used from any origin. A request that runs into a fault still gets an answer, also one
whose body is nested too deeply for the server's stack.
-/
namespace StyleLift.Server

open Http

/-- The headers that open a resource to every origin. -/
def crossOriginHeaders : List (Text × Text) := [
  ("Access-Control-Allow-Origin", "*"),
  ("Access-Control-Allow-Headers", "Content-Type"),
  ("Access-Control-Allow-Methods", "GET, POST, OPTIONS")]

/-- An answer without a body and without headers. -/
def bare (status : Nat) : Response := ⟨status, [], []⟩

def jsonText (v : Json) : Text := v.sortKeys.toText Json.compact ++ [.char '\n']

def jsonResponse (status : Nat) (v : Json) : Response :=
  ⟨status, (contentTypeHeader, jsonType) :: crossOriginHeaders, Text.utf8 (jsonText v)⟩

def errorStatus : ErrorCode → Nat
  | .invalidParams => 400
  | .methodNotFound => 404
  | .internalError => 500

def errorResponse (code : ErrorCode) (message : Text) : Response :=
  jsonResponse (errorStatus code)
    (.obj [("error", .obj [("code", .str code.name), ("message", .str message)])])

def healthReport : Json := .obj [("status", .str "ok"), ("version", .str programVersion)]

def toolList (r : Registry) : Json :=
  .obj [("tools", .arr (r.definitions.map ToolDefinition.toJson))]

def content (text : Text) : Json :=
  .obj [("content", .arr [.obj [("type", .str "text"), ("text", .str text)]])]

/-- The answer to a request that ran into a fault. -/
def failed : Response := Refusal.failed.response crossOriginHeaders

/-- The answer with the list of tools, whose parameters may be what is not written. -/
def listResponse (stack : Json.Stack) (r : Registry) : Response :=
  match (toolList r).sortKeys.writeWithin stack.room Json.compact false with
  | .ok _ => jsonResponse 200 (toolList r)
  | .error _ => failed

/-- The arguments that a request brings: none if it has no JSON that can be read. There is no
telling what is nested too deeply. -/
def argumentsOf? (stack : Json.Stack) (q : Request) : Option Json :=
  if isJson q.contentType then
    (Json.loadOrEmpty? stack.room q.body).map fun v => if v.isNull then .obj [] else v
  else some (.obj [])

def notObject : Response := errorResponse .invalidParams "arguments must be a JSON object"

def resultResponse : Except Fault Text → Response
  | .ok text => jsonResponse 200 (content text)
  | .error (.tool e) => errorResponse e.code e.message
  | .error _ => failed

def callTool (stack : Json.Stack) (r : Registry) (name : Text) (q : Request) : Traced Response :=
  match argumentsOf? stack q with
  | some (.obj members) => resultResponse <$> (r.call name (.obj members)).run
  | some _ => pure notObject
  | none => pure failed

/-- The answer of a route to a method that it allows. -/
def Route.answer (stack : Json.Stack) (r : Registry) (q : Request) :
    Route → Method → Traced Response
  | .staticFile, .options => pure (bare 200)
  | .staticFile, _ => pure (Refusal.notFound.response [])
  | .tool name, .post => callTool stack r name q
  | .tool _, _ => pure ⟨204, crossOriginHeaders, []⟩
  | _, .options => pure ⟨200, crossOriginHeaders, []⟩
  | .health, _ => pure (jsonResponse 200 healthReport)
  | .tools, _ => pure (listResponse stack r)

/-- The code points that the path of a location holds as they are. -/
def isLocationPlain (c : CodePoint) : Bool :=
  c.isAsciiLetter || c.isAsciiDigit || (Text.ofString "_.-~!$&'()*+,/:;=@").contains c

/-- Where a request for a path is to go, with the query that it has. -/
def locationOf (q : Request) (path : Text) : Text :=
  let query := queryPart q.target
  q.origin ++ Text.percentEncode isLocationPlain path ++ if query.length ≤ 1 then [] else query

/-- The answer to a request for a path, with a body whatever the method. A path that leads somewhere
only once every run of slashes is made one is redirected. -/
def answerAt (stack : Json.Stack) (r : Registry) (path : Text) (q : Request) : Traced Response :=
  let allowed (route : Route) : Option Method :=
    (Method.ofName? q.method).filter route.allows
  match Route.ofPath? path with
  | some route =>
    match allowed route with
    | some method => route.answer stack r q method
    | none => pure (Refusal.methodNotAllowed.response [])
  | none =>
    let merged := mergeSlashes path
    match Route.ofPath? merged with
    | some route =>
      pure (if (allowed route).isSome then redirectTo (locationOf q merged)
        else Refusal.methodNotAllowed.response [])
    | none => pure (Refusal.notFound.response [])

/-- The answer to a request for a path; one that asks for headers alone gets no body. -/
def respondAt (stack : Json.Stack) (r : Registry) (path : Text) (q : Request) :
    Traced Response := do
  let response ← answerAt stack r path q
  return if Method.ofName? q.method = some .head then { response with body := [] } else response

def badAuthority (e : AuthorityError) : Fault :=
  .other (if e = .badLabel then .malformedText else .badValue) e.message

/-- The answer to a request, if the request can be made at all. -/
def respond (stack : Json.Stack) (r : Registry) (q : Request) : Action Response := do
  let path ← Action.ofExcept badAuthority (pathOf q.target)
  if !isHeaderValue q.contentType then
    throw (.other .badValue "Header values must not contain newline characters.")
  (respondAt stack r path q : Traced Response)

/-- The answer to a client in the same process. The path that it hands over has to be bytes. -/
def respondWithin (stack : Json.Stack) (r : Registry) (q : Request) : Action Response := do
  match handedPath? q.target with
  | some path => (respondAt stack r path q : Traced Response)
  | none => throw (.other .unencodable "a path that is handed over holds bytes only")

end StyleLift.Server
